/-
The grammar of generics: parameters between angle brackets and constraints after `where`.
-/
import Loopback.Declaration.Grammar.Type

namespace Loopback.Declaration.Grammar

open Tokens

variable (g : Nested)

/-! ## Parameters -/

/-- bounds behind a colon; a colon without bounds vanishes -/
def colonBounds (bounds : Parser Tokens) : Parser Tokens :=
  whenAt (atSign ":") (do
    let colon ← symbol ":"
    let b ← bounds
    if b.isEmpty then nothing else return colon ++ b)

/-- a parameter between angle brackets after its attributes, and whether it is a lifetime -/
def bareParameter : Parser (Bool × Tokens) := do
  let ts ← get
  let ends (ts : Tokens) : Bool := ts.isEmpty || atSign "," ts || atSign ">" ts
  if atLifetime ts then
    return (true, ← lifetimeWritten ++ colonBounds (looseTokens "+" ends lifetimeWritten))
  else if atIdent ts then
    return (false, ← identTokens identifier ++ colonBounds (boundsUntil g fun ts => ends ts || atSign "=" ts) ++
      whenAt (atSign "=") (symbol "=" ++ typeTokens g true))
  else
    return (false, ← keyword "const" ++ identTokens identifier ++ symbol ":" ++ typeTokens g true ++
      whenAt (atSign "=") (symbol "=" ++ constantArgument g))

/-- a parameter between angle brackets, and whether it is a lifetime -/
def genericParameter : Parser (Bool × Tokens) := do
  let attributes ← outerAttributeTokens g
  let (isLifetime, written) ← bareParameter g
  return (isLifetime, attributes ++ written)

/-- parameters between angle brackets, if there are any; one of them may be `_` -/
def parameters : Parser Tokens := do
  if ← at? (atSign "<") then
    let _ ← symbol "<"
    let (l, trailing) ← separated "," (atSign ">") (do
      let attributes ← outerAttributeTokens g
      let (isLifetime, written) ← if ← at? (atWord "_") then pure (false, ← keyword "_") else bareParameter g
      return (isLifetime, attributes ++ written))
    let _ ← symbol ">"
    return angledTokens (withCommas trailing l)
  else nothing

/-- whether angle brackets open parameters and no qualified path -/
def atParameters (ts : Tokens) : Bool :=
  let second := next ts
  let third := next second
  atSign "<" ts &&
    (atSign ">" second || atSign "#" second || atWord "const" second ||
      ((atLifetime second || atIdent second) &&
        (atSign ">" third || atSign "," third || atColon third || atSign "=" third)))

/-! ## Constraints -/

/-- where a list of constraints, or the bounds of one, end -/
def atConstraintEnd (ts : Tokens) : Bool :=
  ts.isEmpty || atGroup .brace ts || atSign "," ts || atSign ";" ts || atColon ts || atSign "=" ts

/-- a constraint: bounds of a lifetime or of a type -/
def constraint : Parser Tokens := do
  let ts ← get
  if atLifetime ts && atSign ":" (next ts) then
    lifetimeWritten ++ symbol ":" ++ looseTokens "+" atConstraintEnd lifetimeWritten
  else
    whenAt (atWord "for") (boundLifetimes g) ++ typeTokens g true ++ symbol ":" ++ boundsUntil g atConstraintEnd

/-- constraints after `where`, if there is one -/
def constraints : Parser (Option Tokens) := do
  if ← at? (atWord "where") then
    let _ ← keyword "where"
    if ← at? atParameters then failure
    else return some (← looseTokens "," atConstraintEnd (constraint g))
  else return none

end Loopback.Declaration.Grammar
