/-
The grammar of patterns.

A pattern that is a name keeps its parts; a range says whether it lacks an end, for it then stands in a slice only in
parentheses. The number of a field is written in base 10.
-/
import Loopback.Declaration.Grammar.Type

namespace Loopback.Declaration.Grammar

open Tokens

variable (g : Nested)

/-- a nested pattern as tokens -/
def patternTokens : Parser Tokens := do
  return (← g.pattern).tokens

/-- whether a bar joins a further pattern -/
def atBar (ts : Tokens) : Bool :=
  atSign "|" ts && !atSign "||" ts && !atSign "|=" ts

/-- patterns parted by bars, maybe with a bar in front -/
def alternatives : Parser Pattern := do
  let bar ← optional (symbol "|")
  let first ← g.pattern
  let more ← repeatWhile atBar (symbol "|" ++ patternTokens g)
  if bar.isEmpty && more.isEmpty then return first else return .other (bar ++ first.tokens ++ more)

def alternativeTokens : Parser Tokens := do
  return (← alternatives g).tokens

/-! ## Ranges -/

/-- a block as a constant -/
def constantPattern : Parser Pattern := do
  let _ ← keyword "const"
  let (inner, body) ← within .brace (do
    let inner ← innerAttributeTokens g
    return (inner, ← g.statements))
  return .constant inner body

/-- an end of a range, if there is one -/
def rangeEnd : Parser (Option Pattern) := do
  let ts ← get
  if ts.isEmpty || atSign "|" ts || atSign "=" ts || atColon ts || atSign "," ts || atSign ";" ts || atWord "if" ts then
    return none
  else if atLiteral ts then return some (.other (← literal))
  else if atPath ts then return some (.other (← path g true).tokens)
  else return some (← constantPattern g)

/-- the dots of a range; three of them are those of a closed one -/
def rangeDots : Parser (Tokens × Bool) := do
  if ← at? (atSign "..=") then return (← symbol "..=", true)
  else if ← at? (atSign "...") then
    let _ ← symbol "..."
    return ([.punct '.' true, .punct '.' true, Declaration.sign '='], true)
  else return (← symbol "..", false)

/-- a range from its lower end on; a closed one needs the upper end -/
def rangeFrom (start : Pattern) : Parser Pattern := do
  let (d, isClosed) ← rangeDots
  match ← rangeEnd g with
  | some e => return .range false (start.tokens ++ d ++ e.tokens)
  | none => if isClosed then failure else return .range true (start.tokens ++ d)

/-- a range without a lower end, or the dots of what is left out -/
def openRange : Parser Pattern := do
  let isClosed ← at? (atSign "..=")
  let d ← symbol "..=" <|> symbol ".."
  match ← rangeEnd g with
  | some e => return .range true (d ++ e.tokens)
  | none => if isClosed then failure else return .other d

/-! ## Parts of values -/

/-- the number of a field -/
def fieldNumber : Parser Tokens := do
  match ← get with
  | .literal t :: r =>
    match fieldNumber? t with
    | some n =>
      set r
      return [.literal n.repr]
    | none => failure
  | _ => failure

/-- whether a number opens -/
def atNumber : Tokens → Bool
  | .literal t :: _ => isNumber t
  | _ => false

/-- a field of a struct pattern after its attributes; one that is boxed is kept as it is written -/
def fieldPattern : Parser Tokens := do
  let adjectives ← optional (keyword "box") ++ optional (keyword "ref") ++ optional (keyword "mut")
  if !adjectives.isEmpty then return adjectives ++ (← identTokens identifier)
  else if ← at? atNumber then fieldNumber ++ symbol ":" ++ alternativeTokens g
  else identTokens identifier ++ whenAt (atSign ":") (symbol ":" ++ alternativeTokens g)

/-- the fields of a struct pattern, and the rest of them after two dots -/
def fieldPatterns : Parser Tokens :=
  gather List.isEmpty (do
    let attributes ← outerAttributeTokens g
    if ← at? (atSign "..") then return (attributes ++ (← symbol ".."), true)
    else
      let f ← fieldPattern g
      if ← at? List.isEmpty then return (attributes ++ f, true)
      else return (attributes ++ f ++ (← symbol ","), false))

/-- an element of a slice; a range that lacks an end needs parentheses -/
def sliceElement : Parser Tokens := do
  match ← alternatives g with
  | .range true _ => failure
  | p => return p.tokens

/-! ## Patterns -/

/-- a pattern that opens with a path -/
def pathPattern : Parser Pattern := do
  let p ← path g true
  let ts ← get
  if !p.qualified && atSign "!" ts && !atSign "!=" ts && p.isModule then
    return .other (p.tokens ++ (← symbol "!" ++ anyGroup))
  else if atGroup .brace ts then return .other (p.tokens ++ (← groupOf .brace (fieldPatterns g)))
  else if atGroup .parenthesis ts then
    return .other (p.tokens ++ (← groupOf .parenthesis (commaList (alternativeTokens g))))
  else if atSign ".." ts then rangeFrom g (.other p.tokens)
  else return .other p.tokens

/-- a name with what may stand around it -/
def namePattern : Parser Pattern := do
  let byRef ← optional (keyword "ref")
  let isMut ← optional (keyword "mut")
  let ident ← if ← at? (atWord "self") then anyIdent else identifier
  if ← at? (atSign "@") then
    let _ ← symbol "@"
    return .name (!byRef.isEmpty) (!isMut.isEmpty) ident (some (← patternTokens g))
  else return .name (!byRef.isEmpty) (!isMut.isEmpty) ident none

/-- whether a pattern that opens with an identifier goes on as a path, a struct or a range -/
def atPathPattern (ts : Tokens) : Bool :=
  let second := next ts
  (atIdent ts && (atSign "::" second || atSign "!" second || atGroup .brace second || atGroup .parenthesis second ||
      atSign ".." second)) ||
    (atWord "self" ts && atSign "::" second) || atSign "::" ts || atSign "<" ts || atAnyWord ["Self", "super", "crate"] ts

/-- a pattern without bars -/
def pattern : Parser Pattern := do
  let ts ← get
  if atPathPattern ts then pathPattern g
  else if atWord "_" ts then return .other (← keyword "_")
  else if atWord "box" ts then return .raw (← verbatim (keyword "box" ++ patternTokens g))
  else if atLiteral ts || atWord "const" ts then
    match ← rangeEnd g with
    | some start => if ← at? (atSign "..") then rangeFrom g start else return start
    | none => failure
  else if atAnyWord ["ref", "mut", "self"] ts || atIdent ts then namePattern g
  else if atSign "&" ts then return .other (← symbol "&" ++ optional (keyword "mut") ++ patternTokens g)
  else if atGroup .parenthesis ts then return .other (← groupOf .parenthesis (commaList (alternativeTokens g)))
  else if atGroup .bracket ts then return .other (← groupOf .bracket (commaList (sliceElement g)))
  else if atSign ".." ts && !atSign "..." ts then openRange g
  else failure

end Loopback.Declaration.Grammar
