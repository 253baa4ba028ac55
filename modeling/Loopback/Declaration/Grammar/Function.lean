/-
The grammar of functions: visibility, receivers, inputs, signatures and bodies.
-/
import Loopback.Declaration.Grammar.Generics
import Loopback.Declaration.Grammar.Pattern

namespace Loopback.Declaration.Grammar

open Tokens

variable (g : Nested)

/-! ## Visibility -/

/-- `pub` with its restriction, or nothing; parentheses that hold something else are no restriction -/
def visibility : Parser Tokens :=
  whenAt (atWord "pub") (keyword "pub" ++ do
    match ← get with
    | .group .parenthesis content :: rest =>
      match content with
      | [.ident i] =>
        if atAnyWord ["crate", "self", "super"] content then
          set rest
          return [parenthesized [.ident i]]
        else nothing
      | _ =>
        if atWord "in" content then
          match whole (keyword "in" ++ do return (← modulePath).tokens) content with
          | some path =>
            set rest
            return [parenthesized path]
          | none => failure
        else nothing
    | _ => nothing)

/-! ## Inputs -/

/-- the front of a receiver: whether it is borrowed, and with which lifetime, and whether it may change; a path that opens
with `self` is none -/
def receiverFront : Parser (Option (Option Ident) × Bool) := do
  let borrowed ← if ← at? (atSign "&") then do
      let _ ← symbol "&"
      some <$> ((some <$> lifetime) <|> pure none)
    else pure none
  let isMut ← optional (keyword "mut")
  let _ ← keyword "self"
  if ← at? (atSign "::") then failure else return (borrowed, !isMut.isEmpty)

/-- a receiver behind its front; only one that is not borrowed may have a type -/
def receiverAfter : Option (Option Ident) → Bool → Parser Receiver
  | some name, isMut => return .borrowed name isMut
  | none, isMut => do
    if ← at? (atSign ":") then
      let _ ← symbol ":"
      return .owned isMut (some (← g.type true))
    else return .owned isMut none

/-- an input of a method, or what makes it variadic -/
inductive Parameter where
  | input (i : Input)
  | variadic (written : Tokens)

/-- an input of a method; what cannot be a receiver is a pattern with a type -/
def parameter : Parser Parameter := do
  let attributes ← outerAttributes g
  if ← at? (atSign "...") then return .variadic (Attribute.outer attributes ++ (← dots ++ optional (symbol ",")))
  else
    let ts ← get
    match receiverFront.run ts with
    | some ((borrowed, isMut), rest) =>
      set rest
      return .input (.receiver attributes (← receiverAfter g borrowed isMut))
    | none =>
      if atIdent ts && atSign "<" (next ts) then
        return .input (.typed attributes (.other [word "_"]) (← g.type true))
      else
        let p ← g.pattern
        let colon ← symbol ":"
        if ← at? (atSign "...") then
          return .variadic (Attribute.outer attributes ++ p.tokens ++ colon ++ (← dots ++ optional (symbol ",")))
        else return .input (.typed attributes p (← g.type true))

/-- the inputs of a method as they are read -/
structure Inputs where
  inputs : List Input
  /-- whether a comma follows the last one -/
  trailing : Bool
  variadic : Tokens

/-- whether an input is a receiver -/
def isReceiver : Input → Bool
  | .receiver _ _ => true
  | .typed _ _ _ => false

/-- the inputs of a method: a receiver may stand at the front only, and what is variadic ends them -/
def inputs : Parser Inputs := do
  let (l, _) ← iterate (fun ((l, last) : Inputs × Bool) => do
    if last || (← at? List.isEmpty) then return none
    else
      match ← parameter g with
      | .variadic w => return some ({ l with variadic := w }, true)
      | .input i =>
        if isReceiver i && !l.inputs.isEmpty then failure
        else if ← at? List.isEmpty then return some (⟨l.inputs ++ [i], false, []⟩, true)
        else
          let _ ← symbol ","
          return some (⟨l.inputs ++ [i], true, []⟩, false)) (⟨[], false, []⟩, false)
  return l

/-! ## Signatures -/

/-- what stands in front of `fn` -/
structure Qualifiers where
  isConst : Bool
  isAsync : Bool
  isUnsafe : Bool
  /-- a function of another language that is said to be safe -/
  isSafe : Bool
  abi : Tokens

/-- what stands in front of `fn`; only some places allow `safe` -/
def qualifiers (allowSafe : Bool) : Parser Qualifiers := do
  let isConst ← optional (keyword "const")
  let isAsync ← optional (keyword "async")
  let isUnsafe ← optional (keyword "unsafe")
  let isSafe ← if allowSafe && isUnsafe.isEmpty then optional (keyword "safe") else nothing
  return ⟨!isConst.isEmpty, !isAsync.isEmpty, !isUnsafe.isEmpty, !isSafe.isEmpty, ← abi⟩

/-- whether a function opens, maybe after qualifiers -/
def atFunction (allowSafe : Bool) (ts : Tokens) : Bool :=
  match (qualifiers allowSafe).run ts with
  | some (_, rest) => atWord "fn" rest
  | none => false

/-- the type after an arrow, if there is one -/
def outputType : Parser (Option TypeExpr) := do
  if ← at? (atSign "->") then
    let _ ← symbol "->"
    return some (← g.type true)
  else return none

/-- a function without attributes and body, and whether it is said to be safe -/
def signature (allowSafe : Bool) : Parser (MethodDecl × Bool) := do
  let q ← qualifiers allowSafe
  let _ ← keyword "fn"
  let name ← identifier
  let generic ← parameters g
  let i ← within .parenthesis (inputs g)
  let result ← outputType g
  let constrained ← constraints g
  return (⟨[], q.isConst, q.isAsync, q.isUnsafe, q.abi, name, ⟨generic, constrained⟩, i.inputs, i.trailing, i.variadic,
    result, none⟩, q.isSafe)

/-! ## Functions -/

/-- the braces of a function behind its signature: attributes and statements -/
def withFunctionBody (m : MethodDecl) : Parser MethodDecl := do
  let (inner, body) ← within .brace (do
    let inner ← innerAttributes g
    return (inner, ← g.statements))
  return { m with attributes := m.attributes ++ inner, body := some body }

/-- a method from its signature on; a semicolon stands in place of a body -/
def method (outer : List Attribute) : Parser MethodDecl := do
  let (m, _) ← signature g false
  let m := { m with attributes := outer }
  if ← at? (atGroup .brace) then withFunctionBody g m
  else
    let _ ← symbol ";"
    return m

end Loopback.Declaration.Grammar
