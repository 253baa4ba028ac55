/-
Reading token trees from text.

Blanks and comments separate tokens and vanish; a documentation comment is the attribute that it stands for. A literal
is tried before a punctuation character, and that before an identifier. Brackets must be balanced.
- `lexemes`: each step takes at least one character, so the text ends;
- `Tokens.ofText?`: the trees of a whole text, or none.
-/
import Loopback.Declaration.Literal
import Loopback.Declaration.Token
import Loopback.Text.Blank

namespace Loopback.Declaration

/-! ## Lexemes -/

/-- a piece of a text: a token or a bracket -/
inductive Lexeme where
  | leaf (t : Tree)
  | opening (d : Delimiter)
  | closing (d : Delimiter)

/-- a delimiter that opens with a character -/
def Delimiter.ofOpening? : Char → Option Delimiter
  | '(' => some .parenthesis
  | '[' => some .bracket
  | '\x7b' => some .brace
  | _ => none

/-- a delimiter that closes with a character -/
def Delimiter.ofClosing? : Char → Option Delimiter
  | ')' => some .parenthesis
  | ']' => some .bracket
  | '\x7d' => some .brace
  | _ => none

/-! ## Comments -/

/-- whether a character separates tokens: white space, or a mark of writing direction -/
def isSeparator (c : Char) : Bool :=
  Text.isBlank c || c == '\u200e' || c == '\u200f'

/-- the rest of a line without its end, and what follows from the line feed on -/
def splitLine : List Char → List Char × List Char
  | [] => ([], [])
  | '\n' :: r => ([], '\n' :: r)
  | '\r' :: '\n' :: r => ([], '\n' :: r)
  | c :: r => (c :: (splitLine r).1, (splitLine r).2)

/-- the text of a block comment after its opening, with nested comments, and what follows its end -/
def splitComment : Nat → List Char → Option (List Char × List Char)
  | _, [] => none
  | depth, '/' :: '*' :: r => (splitComment (depth + 1) r).map fun (t, rest) => ('/' :: '*' :: t, rest)
  | 0, '*' :: '/' :: r => some ([], r)
  | depth + 1, '*' :: '/' :: r => (splitComment depth r).map fun (t, rest) => ('*' :: '/' :: t, rest)
  | depth, c :: r => (splitComment depth r).map fun (t, rest) => (c :: t, rest)

/-- whether every carriage return of a text is followed by a line feed -/
def linesEndWell : List Char → Bool
  | [] => true
  | '\r' :: '\n' :: r => linesEndWell r
  | c :: r => c != '\r' && linesEndWell r

/-- the attribute that a documentation comment stands for -/
def documentation (inner : Bool) (text : List Char) : Option (List Lexeme) :=
  if linesEndWell text then
    some ([.leaf (sign '#')] ++ (if inner then [.leaf (sign '!')] else []) ++
      [.opening .bracket, .leaf (word "doc"), .leaf (sign '='), .leaf (stringLiteral (String.ofList text)),
        .closing .bracket])
  else none

/-! ## Tokens -/

/-- the punctuation characters -/
def isPunctuation (c : Char) : Bool :=
  "~!@#$%^&*-=+|;:,<.>/?'".toList.contains c

/-- whether a text goes on with punctuation; a comment is none -/
def punctuationFollows : List Char → Bool
  | '/' :: '/' :: _ => false
  | '/' :: '*' :: _ => false
  | c :: _ => isPunctuation c
  | [] => false

/-- take an identifier off the front, a raw one included -/
def scanIdentifier (cs : List Char) : Option (Ident × List Char) :=
  let raw := opensWith "r#" cs
  match if raw then cs.drop 2 else cs with
  | [] => none
  | c :: r =>
    let name := String.ofList (c :: r.takeWhile Text.isIdentifierRest)
    if !Text.isIdentifierStart c then none
    else if raw && ["_", "super", "self", "Self", "crate"].contains name then none
    else some (⟨raw, name⟩, r.dropWhile Text.isIdentifierRest)

/-- take a punctuation character off the front; an apostrophe is one if it opens a lifetime -/
def scanPunctuation : List Char → Option (Tree × List Char)
  | '\'' :: r => do
    let (_, after) ← scanIdentifier r
    if opensWith "'" after || (opensWith "#" after && !opensWith "r#" r) then none
    else some (.punct '\'' true, r)
  | c :: r => if isPunctuation c then some (.punct c (punctuationFollows r), r) else none
  | [] => none

/-- the literal that marks the place of a fault; it stands where an opening parenthesis would -/
def faultMark : String :=
  "(/*ERROR*/)"

/-- what announces a literal and so opens no identifier -/
def literalOpenings : List String :=
  ["r\"", "r#\"", "r##", "b\"", "b'", "br\"", "br#", "c\"", "cr\"", "cr#"]

/-- take a token off the front -/
def scanLeaf (cs : List Char) : Option (Tree × List Char) :=
  match scanLiteral cs with
  | some rest => some (.literal (String.ofList (cs.take (cs.length - rest.length))), rest)
  | none => match scanPunctuation cs with
    | some t => some t
    | none =>
      if literalOpenings.any (opensWith · cs) then none
      else (scanIdentifier cs).map fun (i, rest) => (.ident i, rest)

/-- take a piece off the front of a text: its lexemes, none for blanks and comments -/
def scanPiece : List Char → Option (List Lexeme × List Char)
  | '/' :: '/' :: '/' :: '/' :: r => some ([], (splitLine r).2)
  | '/' :: '/' :: '/' :: r => (documentation false (splitLine r).1).map (·, (splitLine r).2)
  | '/' :: '/' :: '!' :: r => (documentation true (splitLine r).1).map (·, (splitLine r).2)
  | '/' :: '/' :: r => some ([], (splitLine r).2)
  | '/' :: '*' :: '*' :: '/' :: r => some ([], r)
  | '/' :: '*' :: r => do
    let (text, rest) ← splitComment 0 r
    match text with
    | '!' :: text => return (← documentation true text, rest)
    | '*' :: '*' :: _ => return ([], rest)
    | '*' :: text =>
      -- a third star that is the one of the end makes no documentation
      if opensWith "**" r then return ([], rest) else return (← documentation false text, rest)
    | _ => return ([], rest)
  | c :: r =>
    if isSeparator c then some ([], r)
    else if opensWith faultMark (c :: r) then
      some ([.leaf (.literal faultMark)], (c :: r).drop faultMark.length)
    else match Delimiter.ofOpening? c, Delimiter.ofClosing? c with
      | some d, _ => some ([.opening d], r)
      | none, some d => some ([.closing d], r)
      | none, none => (scanLeaf (c :: r)).map fun (t, rest) => ([.leaf t], rest)
  | [] => none

/-- the lexemes of a text -/
def lexemes (cs : List Char) : Option (List Lexeme) :=
  match cs with
  | [] => some []
  | c :: r => match scanPiece (c :: r) with
    | none => none
    | some (ls, rest) => if _h : rest.length < (c :: r).length then (lexemes rest).map (ls ++ ·) else none
termination_by cs.length
decreasing_by assumption

/-! ## Trees -/

/-- the trees of lexemes, under the groups that are open and after the trees already read, last first -/
def assemble : List Lexeme → List (Delimiter × Tokens) → Tokens → Option Tokens
  | [], [], ts => some ts.reverse
  | [], _ :: _, _ => none
  | .leaf t :: r, groups, ts => assemble r groups (t :: ts)
  | .opening d :: r, groups, ts => assemble r ((d, ts) :: groups) []
  | .closing d :: r, (e, outer) :: groups, ts =>
    if d = e then assemble r groups (.group d ts.reverse :: outer) else none
  | .closing _ :: _, [], _ => none

/-- the token trees of a text; a byte order mark at its front is dropped -/
def Tokens.ofText? (s : String) : Option Tokens := do
  let cs := match s.toList with
    | '\ufeff' :: r => r
    | cs => cs
  assemble (← lexemes cs) [] []

end Loopback.Declaration
