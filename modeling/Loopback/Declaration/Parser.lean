/-
Parsers of token trees.

A parser takes trees off the front of a run, or refuses. A parser of tokens gives what it took; two of them are run one
after the other by `++`. A sign of several characters is a run of joint punctuation, and a sign of one character is
also found at the front of a longer one.
- `separated`: items with commas between them, up to where the list ends;
- `whole`: a parser that must take all.
-/
import Loopback.Declaration.Token

namespace Loopback.Declaration

/-- take trees off the front of a run, or refuse -/
abbrev Parser := StateT Tokens Option

instance : Append (Parser Tokens) where
  append p q := do
    let a ← p
    let b ← q
    return a ++ b

/-! ## Looking ahead -/

namespace Tokens

/-- split a sign off the front -/
def splitSign : List Char → Tokens → Option (Tokens × Tokens)
  | [], _ => none
  | [c], .punct d joint :: r => if c == d then some ([.punct d joint], r) else none
  | c :: cs, .punct d true :: r =>
    if c == d then (splitSign cs r).map fun (taken, rest) => (.punct d true :: taken, rest) else none
  | _, _ => none

def atSign (s : String) (ts : Tokens) : Bool :=
  (splitSign s.toList ts).isSome

def atWord (s : String) : Tokens → Bool
  | .ident i :: _ => i == .plain s
  | _ => false

def atAnyWord (l : List String) (ts : Tokens) : Bool :=
  l.any (atWord · ts)

def atAnySign (l : List String) (ts : Tokens) : Bool :=
  l.any (atSign · ts)

def atGroup (d : Delimiter) : Tokens → Bool
  | .group e _ :: _ => d == e
  | _ => false

/-- the words that are no identifiers unless they are raw -/
def keywords : List String :=
  ["_", "abstract", "as", "async", "await", "become", "box", "break", "const", "continue", "crate", "do", "dyn", "else",
    "enum", "extern", "false", "final", "fn", "for", "if", "impl", "in", "let", "loop", "macro", "match", "mod", "move",
    "mut", "override", "priv", "pub", "ref", "return", "Self", "self", "static", "struct", "super", "trait", "true",
    "try", "type", "typeof", "unsafe", "unsized", "use", "virtual", "where", "while", "yield"]

def atAnyIdent : Tokens → Bool
  | .ident _ :: _ => true
  | _ => false

def atIdent : Tokens → Bool
  | .ident i :: _ => i.raw || !keywords.contains i.name
  | _ => false

def atLifetime : Tokens → Bool
  | .punct '\'' true :: .ident _ :: _ => true
  | _ => false

/-- whether a literal is a number -/
def isNumber (literal : String) : Bool :=
  (literal.toList.head?.map Char.isDigit).getD false

/-- split a literal off the front; `true` and `false` are literals, and so is a number after a minus -/
def splitLiteral : Tokens → Option (Tokens × Tokens)
  | .literal t :: r => some ([.literal t], r)
  | .ident i :: r => if i == .plain "true" || i == .plain "false" then some ([.ident i], r) else none
  | .punct '-' joint :: .literal t :: r =>
    if isNumber t then some ([.punct '-' joint, .literal t], r) else none
  | _ => none

def atLiteral (ts : Tokens) : Bool :=
  (splitLiteral ts).isSome

/-- the run after its first token; a lifetime is one token -/
def next : Tokens → Tokens
  | .punct '\'' true :: .ident _ :: r => r
  | _ :: r => r
  | [] => []

/-- whether a path segment may begin here -/
def atSegment (ts : Tokens) : Bool :=
  atIdent ts || atAnyWord ["super", "self", "Self", "crate"] ts

end Tokens

open Tokens

/-- whether the run that is left is of a kind -/
def at? (p : Tokens → Bool) : Parser Bool := do
  return p (← get)

/-! ## Single tokens -/

/-- nothing -/
def nothing : Parser Tokens :=
  return []

def symbol (s : String) : Parser Tokens := do
  let (taken, rest) ← splitSign s.toList (← get)
  set rest
  return taken

def keyword (s : String) : Parser Tokens := do
  match ← get with
  | .ident i :: r => if i == .plain s then set r; return [.ident i] else failure
  | _ => failure

def anyIdent : Parser Ident := do
  match ← get with
  | .ident i :: r => set r; return i
  | _ => failure

def identifier : Parser Ident := do
  if atIdent (← get) then anyIdent else failure

/-- the name of a lifetime -/
def lifetime : Parser Ident := do
  match ← get with
  | .punct '\'' true :: .ident i :: r => set r; return i
  | _ => failure

def literal : Parser Tokens := do
  let (taken, rest) ← splitLiteral (← get)
  set rest
  return taken

/-- any one tree -/
def anyTree : Parser Tokens := do
  match ← get with
  | t :: r => set r; return [t]
  | [] => failure

/-! ## Combinations -/

/-- an identifier as tokens -/
def identTokens (p : Parser Ident) : Parser Tokens := do
  return [.ident (← p)]

/-- a token that may be absent -/
def optional (p : Parser Tokens) : Parser Tokens :=
  p <|> nothing

/-- run a parser where the run that is left is of a kind -/
def whenAt (c : Tokens → Bool) (p : Parser Tokens) : Parser Tokens := do
  if ← at? c then p else nothing

/-- run a parser on the content of a group, all of which it must take -/
def within {α : Type} (d : Delimiter) (p : Parser α) : Parser α := do
  match ← get with
  | .group e content :: r =>
    match p.run content with
    | some (a, []) => if d == e then set r; return a else failure
    | _ => failure
  | _ => failure

/-- a group of tokens -/
def groupOf (d : Delimiter) (p : Parser Tokens) : Parser Tokens := do
  return [.group d (← within d p)]

/-- all that is left -/
def remainder : Parser Tokens := do
  let ts ← get
  set ([] : Tokens)
  return ts

/-- a group of any brackets with any content -/
def anyGroup : Parser Tokens := do
  match ← get with
  | .group d content :: r => set r; return [.group d content]
  | _ => failure

/-- what has been taken since a run was left, as it is written -/
def takenSince (before : Tokens) : Parser Tokens := do
  return before.take (before.length - (← get).length)

/-- what a parser takes, as it is written -/
def verbatim {α : Type} (p : Parser α) : Parser Tokens := do
  let before ← get
  let _ ← p
  takenSince before

/-- repeat a step until it gives nothing; each step but the last must take a tree -/
def iterateFor {α : Type} (step : α → Parser (Option α)) : Nat → α → Parser α
  | 0, _ => failure
  | n + 1, a => do
    match ← step a with
    | some b => iterateFor step n b
    | none => return a

/-- repeat a step until it gives nothing -/
def iterate {α : Type} (step : α → Parser (Option α)) (a : α) : Parser α := do
  iterateFor step ((← get).length + 1) a

/-- repeat a parser of tokens while the run that is left is of a kind -/
def repeatWhile (c : Tokens → Bool) (p : Parser Tokens) : Parser Tokens :=
  iterate (fun taken => do if ← at? c then return some (taken ++ (← p)) else return none) []

/-- items with a separator between them, up to where a list ends, and whether a separator follows the last item -/
def separated {α : Type} (separator : String) (ends : Tokens → Bool) (item : Parser α) : Parser (List α × Bool) := do
  let (items, trailing, _) ← iterate (fun ((items, _, last) : List α × Bool × Bool) => do
    if last || (← at? ends) then return none
    else
      let a ← item
      if ← at? ends then return some (items ++ [a], false, true)
      else
        let _ ← symbol separator
        return some (items ++ [a], true, false)) ([], false, false)
  return (items, trailing)

/-- gather tokens up to where they end; a step gives what it took, and whether it was the last -/
def gather (ends : Tokens → Bool) (step : Parser (Tokens × Bool)) : Parser Tokens := do
  let (taken, _) ← iterate (fun ((taken, last) : Tokens × Bool) => do
    if last || (← at? ends) then return none
    else
      let (t, last) ← step
      return some (taken ++ t, last)) ([], false)
  return taken

/-- items with a separator between them, up to where a list ends -/
def separatedTokens (separator : String) (ends : Tokens → Bool) (item : Parser Tokens) : Parser Tokens :=
  gather ends (do
    let a ← item
    if ← at? ends then return (a, true) else return (a ++ (← symbol separator), false))

/-- items with a separator between them, up to where a list ends or no separator follows -/
def looseTokens (separator : String) (ends : Tokens → Bool) (item : Parser Tokens) : Parser Tokens :=
  gather ends (do
    let a ← item
    if ← at? (atSign separator) then return (a ++ (← symbol separator), false) else return (a, true))

/-- items parted by commas up to the end of a group -/
def commaList (item : Parser Tokens) : Parser Tokens :=
  separatedTokens "," List.isEmpty item

/-- run a parser that must take a whole run -/
def whole {α : Type} (p : Parser α) (ts : Tokens) : Option α :=
  match p.run ts with
  | some (a, []) => some a
  | _ => none

end Loopback.Declaration
