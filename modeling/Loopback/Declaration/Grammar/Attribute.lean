/-
The grammar of attributes and of their arguments.

An argument is a path, a path with anything in brackets, or a path and a value. A value is an expression; it is a
literal if it is written as one, and a negative number is one only where nothing follows it.
-/
import Loopback.Declaration.Grammar.Nested
import Loopback.Declaration.Literal

namespace Loopback.Declaration.Grammar

open Tokens

variable (g : Nested)

/-! ## Paths -/

/-- a path of words, keywords among them -/
def modulePath : Parser ModulePath := do
  let isGlobal ← at? (atSign "::")
  let _ ← optional (symbol "::")
  if ← at? atSegment then
    let first ← anyIdent
    let segments ← iterate (fun l => do
      if ← at? (atSign "::") then
        let _ ← symbol "::"
        if ← at? atSegment then return some (l ++ [← anyIdent]) else failure
      else return none) [first]
    return ⟨isGlobal, segments⟩
  else failure

/-- the path of an attribute -/
def attributePath : Parser ModulePath := do
  if ← at? (atWord "unsafe") then return ⟨false, [← anyIdent]⟩ else modulePath

/-! ## Arguments -/

/-- a value by its tokens: a string, any other literal, or an expression -/
def valueOf : Tokens → ArgumentValue
  | [.literal t] => match stringValue? t with
    | some s => .text s
    | none => .literal [.literal t]
  | [.ident i] => if i == .plain "true" || i == .plain "false" then .literal [.ident i] else .expression [.ident i]
  | e => .expression e

/-- the value of an attribute argument, and its tokens -/
def argumentValue : Parser (ArgumentValue × Tokens) := do
  let ts ← get
  match splitLiteral ts with
  | some (taken, []) =>
    set ([] : Tokens)
    return (match taken with
      | [.punct _ _, _] => .literal taken
      | _ => valueOf taken, taken)
  | _ =>
    if atSign "#" ts && atGroup .bracket (next ts) then failure
    else
      let e ← g.expression true
      return (valueOf e, e)

/-- an argument of an attribute, and the tokens behind its path -/
def argumentWithRest : Parser (AttributeArgument × ModulePath × Tokens) := do
  let p ← attributePath
  match ← get with
  | .group d content :: r =>
    set r
    return (.list p [.group d content], p, [.group d content])
  | ts =>
    if atSign "=" ts && !atSign "==" ts && !atSign "=>" ts then
      let eq ← symbol "="
      let (v, written) ← argumentValue g
      return (.assignment p v, p, eq ++ written)
    else return (.path p, p, [])

/-- an argument of an attribute -/
def attributeArgument : Parser AttributeArgument := do
  return (← argumentWithRest g).1

/-! ## Attributes -/

/-- what stands between the brackets of an attribute -/
def attributeContent (isInner : Bool) : Parser Attribute := do
  let (_, p, rest) ← argumentWithRest g
  return ⟨isInner, p, rest⟩

/-- the attributes in front of something -/
def outerAttributes : Parser (List Attribute) :=
  iterate (fun l => do
    if ← at? (atSign "#") then
      let _ ← symbol "#"
      return some (l ++ [← within .bracket (attributeContent g false)])
    else return none) []

/-- the attributes at the front of a group -/
def innerAttributes : Parser (List Attribute) :=
  iterate (fun l => do
    let ts ← get
    if atSign "#" ts && atSign "!" (next ts) then
      let _ ← symbol "#"
      let _ ← symbol "!"
      return some (l ++ [← within .bracket (attributeContent g true)])
    else return none) []

def outerAttributeTokens : Parser Tokens := do
  return Attribute.outer (← outerAttributes g)

def innerAttributeTokens : Parser Tokens := do
  return Attribute.inner (← innerAttributes g)

/-! ## Blocks -/

/-- statements in braces -/
def block : Parser Tokens :=
  groupOf .brace g.statements

/-- attributes and statements in braces -/
def attributedBlock : Parser Tokens :=
  groupOf .brace (innerAttributeTokens g ++ g.statements)

end Loopback.Declaration.Grammar
