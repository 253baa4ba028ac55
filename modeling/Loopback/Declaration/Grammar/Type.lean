/-
The grammar of types.

Only where `+` is allowed does a type go on with further bounds behind it. A type in parentheses that a `+` follows is
a bound, if it is a path or a single bound.
-/
import Loopback.Declaration.Grammar.Path

namespace Loopback.Declaration.Grammar

open Tokens

variable (g : Nested)

/-! ## Arguments -/

/-- a block, a literal or a name as a constant -/
def constantArgument : Parser Tokens := do
  let ts ← get
  if atLiteral ts then literal
  else if atIdent ts then identTokens anyIdent
  else attributedBlock g

/-- an argument between angle brackets -/
def genericArgument : Parser (GenericArgument TypeExpr) := do
  let ts ← get
  if atLifetime ts && !atSign "+" (next ts) then return .lifetime (← lifetime)
  else if atLiteral ts || atGroup .brace ts then return .other (← constantArgument g)
  else
    let t ← g.type true
    match t with
    | .path false [] _ _ =>
      if ← at? (atSign "=") then
        let eq ← symbol "="
        let ts ← get
        let value ← if atLiteral ts || atGroup .brace ts then constantArgument g else typeTokens g true
        return .other (t.tokens ++ eq ++ value)
      else if ← at? (atSign ":") then
        let colon ← symbol ":"
        let bounds ← boundsUntil g (fun ts => atSign "," ts || atSign ">" ts)
        return .other (t.tokens ++ colon ++ bounds)
      else return .type t
    | _ => return .type t

/-! ## Functions -/

/-- `extern` and a string -/
def abi : Parser Tokens :=
  whenAt (atWord "extern") (keyword "extern" ++ do
    match ← get with
    | .literal t :: r => if (stringValue? t).isSome then set r; return [.literal t] else nothing
    | _ => nothing)

/-- the dots of variadic arguments -/
def dots : Parser Tokens :=
  symbol "..."

/-- whether a run goes on with one colon -/
def atColon (ts : Tokens) : Bool :=
  atSign ":" ts && !atSign "::" ts

/-- an input of a function type; the first may be a receiver, which is kept as it is written -/
def functionInput (isFirst : Bool) : Parser Tokens := do
  let ts ← get
  let atReceiver (ts : Tokens) := isFirst && atWord "mut" ts && atWord "self" (next ts)
  let isSelf := isFirst && atWord "self" ts
  let receiver := keyword "mut" ++ keyword "self"
  if atReceiver ts then verbatim (receiver ++ whenAt atColon (symbol ":" ++ typeTokens g true))
  else if (atIdent ts || atWord "_" ts || isSelf) && atColon (next ts) then
    identTokens anyIdent ++ symbol ":" ++ do
      if ← at? (fun ts => !isSelf && atReceiver ts) then receiver else typeTokens g true
  else typeTokens g true

/-- a function type after its lifetimes -/
def functionType : Parser Tokens :=
  optional (keyword "unsafe") ++ abi ++ keyword "fn" ++ groupOf .parenthesis inputs ++ output g false
where
  /-- the inputs, the last maybe variadic -/
  inputs : Parser Tokens := do
    let (taken, _) ← iterate (fun ((taken, last) : Tokens × Bool) => do
      if last || (← at? List.isEmpty) then return none
      else
        let (t, last) ← input taken.isEmpty
        return some (taken ++ t, last)) ([], false)
    return taken
  /-- an input with the comma after it, and whether it is the last -/
  input (isFirst : Bool) : Parser (Tokens × Bool) := do
    let attributes ← outerAttributeTokens g
    let ts ← get
    if atSign "..." ts then return (attributes ++ (← dots ++ optional (symbol ",")), true)
    else if (atIdent ts || atWord "_" ts) && atSign ":" (next ts) && atSign "..." (next (next ts)) then
      return (attributes ++ (← identTokens anyIdent ++ symbol ":" ++ dots ++ optional (symbol ",")), true)
    else
      let i ← functionInput g isFirst
      if ← at? List.isEmpty then return (attributes ++ i, true) else return (attributes ++ i ++ (← symbol ","), false)

/-! ## Types -/

/-- the bound that a type may be where a `+` follows its parentheses -/
def boundOf? : TypeExpr → Option Tokens
  | .path false lead name arguments => some (TypeExpr.path false lead name arguments).tokens
  | .bound _ w => some w
  | _ => none

/-- a type and maybe more of them, with commas between them -/
def typeOrTuple : Parser (TypeExpr ⊕ Tokens) := do
  let first ← g.type true
  if ← at? List.isEmpty then return .inl first
  else return .inr (first.tokens ++ (← symbol "," ++ commaList (typeTokens g true)))

/-- a type in parentheses, a tuple, or bounds the first of which is in parentheses -/
def parenthesizedType (plus : Bool) : Parser TypeExpr := do
  match ← get with
  | .group .parenthesis content :: rest =>
    if content.isEmpty then
      set rest
      return .other [parenthesized []]
    else if atLifetime content then return .other (← groupOf .parenthesis (typeBounds g .object true))
    else if atSign "?" content then
      let (first, _) ← within .parenthesis (traitBound g false)
      let more ← joinedBounds g
      if more.isEmpty then return .bound true first else return .other (parenthesized first :: more)
    else
      match ← within .parenthesis (typeOrTuple g) with
      | .inr tuple => return .other [parenthesized tuple]
      | .inl t =>
        match boundOf? t with
        | some first =>
          if plus && (← at? (atSign "+")) then return .other (parenthesized first :: (← joinedBounds g))
          else return .other [parenthesized t.tokens]
        | none => return .other [parenthesized t.tokens]
  | _ => failure

/-- a type that opens with a path -/
def pathType (lifetimes : Tokens) (plus : Bool) : Parser TypeExpr := do
  let p ← path g false
  let ts ← get
  if p.qualified then return p.type
  else if atSign "!" ts && !atSign "!=" ts && p.isModule then
    return .other (p.tokens ++ (← symbol "!" ++ anyGroup))
  else if plus && atSign "+" ts then return .other (lifetimes ++ p.tokens ++ (← moreBounds g .object).1)
  else if lifetimes.isEmpty then return p.type
  else return .bound false (lifetimes ++ p.tokens)

/-- whether a construct opens that the language keeps for itself -/
def atBuiltin (ts : Tokens) : Bool :=
  atWord "builtin" ts && atSign "#" (next ts)

/-- a construct that the language keeps for itself, with anything in its parentheses -/
def builtin : Parser Tokens :=
  keyword "builtin" ++ symbol "#" ++ identTokens identifier ++ groupOf .parenthesis remainder

/-- a type, with or without bounds joined by `+` -/
def typeExpr (plus : Bool) : Parser TypeExpr := do
  let before ← get
  let lifetimes ← whenAt (atWord "for") (boundLifetimes g)
  let ts ← get
  if atAnyWord ["fn", "unsafe", "extern"] ts then return .other (lifetimes ++ (← functionType g))
  else if atBuiltin ts then
    let _ ← builtin
    return .other (← takenSince before)
  else if atSegment ts then pathType g lifetimes plus
  else if !lifetimes.isEmpty then failure
  else if atGroup .parenthesis ts then parenthesizedType g plus
  else if atSign "::" ts || atSign "<" ts then pathType g [] plus
  else if atWord "dyn" ts then
    let opening ← keyword "dyn"
    let star ← optional (symbol "*")
    let bounds ← typeBounds g .object plus
    if star.isEmpty then return .other (opening ++ bounds) else return .other (← takenSince before)
  else if atGroup .bracket ts then
    return .other (← groupOf .bracket (typeTokens g true ++ whenAt (atSign ";") (symbol ";" ++ g.expression true)))
  else if atSign "*" ts then
    return .other (← symbol "*" ++ (keyword "const" <|> keyword "mut") ++ typeTokens g false)
  else if atSign "&" ts then
    return .reference (← symbol "&" ++ optional lifetimeWritten ++ optional (keyword "mut") ++ typeTokens g false)
  else if atSign "!" ts then return .other (← symbol "!")
  else if atWord "impl" ts then return .implTrait (← keyword "impl" ++ typeBounds g .impl plus)
  else if atWord "_" ts then return .other (← keyword "_")
  else if atLifetime ts then return .other (← typeBounds g .object true)
  else failure

/-! ## Ends -/

/-- whether a run of trees ends with a name -/
def endsInName (ts : Tokens) : Bool :=
  ts.getLast?.any fun t => atAnyIdent [t] && !atWord "_" [t]

/-- whether a type ends with a path without arguments, maybe as a bound in parentheses -/
def endsInPath (ts : Tokens) : Bool :=
  endsInName ts ||
    match ts.reverse with
    | .group .parenthesis content :: before :: _ => atAnyWord ["dyn", "impl"] [before] && endsInName content
    | _ => false

end Loopback.Declaration.Grammar
