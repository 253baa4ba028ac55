/-
Tokens of declarations.

A text is read as token trees: identifiers, punctuation characters, literals and bracketed groups. `render` writes
trees as a line of tokens with one space between any two, one punctuation character to a token.
- `texts_append`: the tokens of two runs are those of the first and then those of the second.
-/
import Loopback.Text.Quoted

namespace Loopback.Declaration

/-! ## Trees -/

/-- an identifier; a raw one is written after `r#` and is never a keyword -/
structure Ident where
  raw : Bool
  name : String
deriving DecidableEq, Repr, Inhabited

namespace Ident

/-- an identifier that is not raw -/
def plain (name : String) : Ident := ⟨false, name⟩

/-- an identifier as it is written -/
def text (i : Ident) : String :=
  if i.raw then "r#" ++ i.name else i.name

end Ident

/-- the brackets of a group -/
inductive Delimiter where
  | parenthesis
  | bracket
  | brace
deriving DecidableEq, Repr

namespace Delimiter

def opening : Delimiter → String
  | parenthesis => "("
  | bracket => "["
  | brace => "\x7b"

def closing : Delimiter → String
  | parenthesis => ")"
  | bracket => "]"
  | brace => "\x7d"

end Delimiter

/-- a token tree -/
inductive Tree where
  | ident (i : Ident)
  /-- a punctuation character; it is joint if the next character of the text is punctuation too -/
  | punct (c : Char) (joint : Bool)
  /-- a literal as it is written -/
  | literal (text : String)
  | group (d : Delimiter) (content : List Tree)
deriving Repr, Inhabited

/-- a run of token trees -/
abbrev Tokens := List Tree

/-! ## Rendering -/

mutual

/-- the tokens of a tree -/
def Tree.texts : Tree → List String
  | .ident i => [i.text]
  | .punct c _ => [c.toString]
  | .literal t => [t]
  | .group d content => d.opening :: (Tokens.texts content ++ [d.closing])

/-- the tokens of a run of trees -/
def Tokens.texts : List Tree → List String
  | [] => []
  | t :: r => t.texts ++ Tokens.texts r

end

@[simp] theorem Tokens.texts_append (a b : Tokens) : Tokens.texts (a ++ b) = Tokens.texts a ++ Tokens.texts b := by
  induction a with
  | nil => simp [Tokens.texts]
  | cons t r ih => simp [Tokens.texts, ih]

/-- the line of tokens of a run of trees -/
def render (ts : Tokens) : String :=
  " ".intercalate (Tokens.texts ts)

mutual

/-- the number of trees in a tree, itself counted -/
def Tree.size : Tree → Nat
  | .group _ content => 1 + Tokens.size content
  | _ => 1

/-- the number of trees in a run, nested ones counted -/
def Tokens.size : List Tree → Nat
  | [] => 0
  | t :: r => t.size + Tokens.size r

end

/-! ## Building trees -/

/-- a plain identifier as a tree -/
def word (name : String) : Tree :=
  .ident (.plain name)

/-- a punctuation character that stands alone -/
def sign (c : Char) : Tree :=
  .punct c false

/-- two colons -/
def colons : Tokens :=
  [.punct ':' true, sign ':']

def parenthesized (ts : Tokens) : Tree := .group .parenthesis ts

def bracketed (ts : Tokens) : Tree := .group .bracket ts

def braced (ts : Tokens) : Tree := .group .brace ts

/-! ## String literals -/

/-- the characters of a text in a string literal: quotes and invisible characters are escaped, apostrophes are not, and a
NUL is written in base 16 before an octal digit -/
def literalChars : List Char → List Char
  | [] => []
  | c :: r =>
    (if c == '\x00' then
      match r with
      | d :: _ => if '0' ≤ d && d ≤ '7' then ['\\', 'x', '0', '0'] else ['\\', '0']
      | [] => ['\\', '0']
    else Text.quotedChar c) ++ literalChars r

/-- the string literal of a text -/
def stringLiteral (s : String) : Tree :=
  .literal (String.ofList ('"' :: literalChars s.toList ++ ['"']))

end Loopback.Declaration
