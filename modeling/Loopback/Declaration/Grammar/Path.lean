/-
The grammar of paths and of bounds.

A path of types may have arguments between angle brackets at each segment; in an expression they follow two colons. The
last segment of a bound may have arguments in parentheses in place of none or empty ones.
-/
import Loopback.Declaration.Grammar.Attribute

namespace Loopback.Declaration.Grammar

open Tokens

variable (g : Nested)

/-! ## Lifetimes and results -/

/-- a lifetime as tokens -/
def lifetimeWritten : Parser Tokens := do
  return lifetimeTokens (← lifetime)

/-- a type as tokens -/
def typeTokens (plus : Bool) : Parser Tokens := do
  return (← g.type plus).tokens

/-- `for` and parameters between angle brackets -/
def boundLifetimes : Parser Tokens :=
  keyword "for" ++ symbol "<" ++ separatedTokens "," (atSign ">") (do return (← g.parameter).2) ++ symbol ">"

/-- an arrow and a type, if there is an arrow -/
def output (plus : Bool) : Parser Tokens :=
  whenAt (atSign "->") (symbol "->" ++ typeTokens g plus)

/-- types in parentheses and a result, as function traits have them -/
def parenthesizedArguments : Parser Tokens :=
  groupOf .parenthesis (commaList (typeTokens g true)) ++ output g false

/-! ## Paths -/

/-- a path as it is read: what is in front of the last segment, and that segment -/
structure PathExpr where
  qualified : Bool
  lead : Tokens
  name : Ident
  arguments : PathArguments TypeExpr
  /-- whether no segment has arguments -/
  isModule : Bool

namespace PathExpr

def type (p : PathExpr) : TypeExpr :=
  .path p.qualified p.lead p.name p.arguments

def tokens (p : PathExpr) : Tokens :=
  p.type.tokens

end PathExpr

/-- a segment of a path -/
structure Segment where
  name : Ident
  arguments : PathArguments TypeExpr

/-- arguments between angle brackets -/
def angledArguments : Parser (PathArguments TypeExpr) := do
  let afterColons ← at? (atSign "::")
  let _ ← optional (symbol "::")
  let _ ← symbol "<"
  let (l, trailing) ← separated "," (atSign ">") g.argument
  let _ ← symbol ">"
  return .angled afterColons l trailing

/-- a path segment; in an expression, arguments follow two colons only -/
def segment (inExpression : Bool) : Parser Segment := do
  if ← at? (atAnyWord ["super", "self", "crate", "try"]) then return ⟨← anyIdent, .none⟩
  else
    let name ← if ← at? (atWord "Self") then anyIdent else identifier
    let ts ← get
    if (!inExpression && atSign "<" ts && !atSign "<=" ts && !atSign "<<=" ts) ||
        (atSign "::" ts && atSign "<" (next (next ts))) then
      return ⟨name, ← angledArguments g⟩
    else return ⟨name, .none⟩

/-- append a segment to a path -/
def PathExpr.push (p : PathExpr) (s : Segment) : PathExpr :=
  { p with
    lead := p.tokens ++ colons
    name := s.name
    arguments := s.arguments
    isModule := p.isModule && s.arguments.isNone }

/-- the segments that follow; two colons before parentheses belong to the parentheses -/
def moreSegments (inExpression : Bool) (p : PathExpr) : Parser PathExpr :=
  iterate (fun p => do
    let ts ← get
    if atSign "::" ts && !atGroup .parenthesis (next (next ts)) then
      let _ ← symbol "::"
      return some (p.push (← segment g inExpression))
    else return none) p

/-- a path without `<T as U>` in front -/
def plainPath (inExpression : Bool) : Parser PathExpr := do
  let lead ← optional (symbol "::")
  let s ← segment g inExpression
  moreSegments g inExpression ⟨false, lead, s.name, s.arguments, s.arguments.isNone⟩

/-- a path, maybe with `<T as U>` in front -/
def path (inExpression : Bool) : Parser PathExpr := do
  if ← at? (atSign "<") then
    let opening ← symbol "<" ++ typeTokens g true ++
      whenAt (atWord "as") (keyword "as" ++ do return (← plainPath g false).tokens) ++ symbol ">" ++
      symbol "::"
    let s ← segment g inExpression
    iterate (fun p => do
      if ← at? (atSign "::") then
        let _ ← symbol "::"
        return some (p.push (← segment g inExpression))
      else return none) ⟨true, opening, s.name, s.arguments, false⟩
  else plainPath g inExpression

/-- whether a path opens here -/
def atPath (ts : Tokens) : Bool :=
  atSegment ts || atSign "::" ts || atSign "<" ts

/-! ## Bounds -/

/-- whether a segment has no arguments, or none between its angle brackets -/
def lacksArguments : PathArguments TypeExpr → Bool
  | .none => true
  | .angled _ l _ => l.isEmpty
  | .parenthesized _ => false

/-- give the last segment of a path arguments in parentheses, if they follow -/
def withParentheses (p : PathExpr) : Parser PathExpr := do
  let ts ← get
  if lacksArguments p.arguments &&
      (atGroup .parenthesis ts || (atSign "::" ts && atGroup .parenthesis (next (next ts)))) then
    let _ ← optional (symbol "::")
    return { p with arguments := .parenthesized (← parenthesizedArguments g) }
  else return p

/-- a trait as a bound, and whether it is a constant one, which only some places allow; a question mark bears no
lifetimes -/
def traitBound (allowConst : Bool) : Parser (Tokens × Bool) := do
  let lifetimes ← whenAt (atWord "for") (boundLifetimes g)
  let isConst ← at? fun ts => atWord "const" ts || atGroup .bracket ts
  if isConst && !allowConst then failure
  else
    let constness ← if ← at? (atGroup .bracket) then groupOf .bracket (keyword "const") else optional (keyword "const")
    let question ← optional (symbol "?")
    if !question.isEmpty && (!lifetimes.isEmpty || (← at? (atWord "for"))) then failure
    else
      let p ← withParentheses g (← plainPath g false)
      return (lifetimes ++ constness ++ question ++ p.tokens, isConst)

/-- the lifetimes and names between angle brackets after `use` -/
def captures : Parser Tokens := do
  let opening ← keyword "use" ++ symbol "<"
  let (l, trailing) ← separated "," (atSign ">") (do
    if ← at? atLifetime then return (true, ← lifetimeWritten)
    else if ← at? (fun ts => atIdent ts || atWord "Self" ts) then return (false, ← identTokens anyIdent)
    else failure)
  return opening ++ angledTokens (withCommas trailing l) ++ (← symbol ">")

/-- what bounds may be at a place -/
structure BoundRules where
  /-- whether captures are allowed -/
  captures : Bool
  /-- whether constant bounds are allowed -/
  const : Bool

/-- the bounds of an object type -/
def BoundRules.object : BoundRules := ⟨false, false⟩

/-- the bounds of a parameter, a trait or an associated type -/
def BoundRules.parameter : BoundRules := ⟨false, true⟩

/-- the bounds of an `impl` type -/
def BoundRules.impl : BoundRules := ⟨true, true⟩

/-- a bound, and whether it is a trait; a constant one is kept as it is written -/
def bound (rules : BoundRules) : Parser (Tokens × Bool) := do
  let before ← get
  if atLifetime before then return (← lifetimeWritten, false)
  else if atWord "use" before then
    if rules.captures then return (← captures, false) else failure
  else
    let (written, isConst) ←
      if atGroup .parenthesis before then do
        let (w, isConst) ← within .parenthesis (traitBound g rules.const)
        pure ([parenthesized w], isConst)
      else traitBound g rules.const
    if isConst then return (← takenSince before, true) else return (written, true)

/-- a bound as tokens -/
def boundTokens (rules : BoundRules) : Parser Tokens := do
  return (← bound g rules).1

/-- bounds joined by `+` up to where they end -/
def boundsUntil (ends : Tokens → Bool) : Parser Tokens :=
  looseTokens "+" ends (boundTokens g .parameter)

/-- whether a bound may follow a `+` -/
def atBound (rules : BoundRules) (ts : Tokens) : Bool :=
  atAnyIdent ts || atSign "::" ts || atSign "?" ts || atLifetime ts || atGroup .parenthesis ts ||
    (rules.const && atGroup .bracket ts)

/-- the bounds that are joined by `+` to what is in front, and whether one of them is a trait; a `+` may end them -/
def moreBounds (rules : BoundRules) : Parser (Tokens × Bool) := do
  let (taken, hasTrait, _) ← iterate (fun ((taken, hasTrait, last) : Tokens × Bool × Bool) => do
    if last || !(← at? (atSign "+")) then return none
    else
      let s ← symbol "+"
      if ← at? (atBound rules) then
        let (b, isTrait) ← bound g rules
        return some (taken ++ s ++ b, hasTrait || isTrait, false)
      else return some (taken ++ s, hasTrait, true)) ([], false, false)
  return (taken, hasTrait)

/-- bounds that are joined by `+` to a bound in front; after each `+` there is one -/
def joinedBounds : Parser Tokens :=
  repeatWhile (atSign "+") (symbol "+" ++ boundTokens g .object)

/-- the bounds of a type, at least one of which must be a trait -/
def typeBounds (rules : BoundRules) (plus : Bool) : Parser Tokens := do
  let (first, isTrait) ← bound g rules
  let (more, hasTrait) ← if plus then moreBounds g rules else pure ([], false)
  if isTrait || hasTrait then return first ++ more else failure

end Loopback.Declaration.Grammar
