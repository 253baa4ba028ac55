/-
Texts between quotes, as diagnostics show them.

A quote, a backslash, a line end, a tab and a NUL are written with a backslash. A character that is not visible, or
that would join the one before it, is written as its code point in braces. All else stands for itself.
-/
import Loopback.Text.Printable
import Loopback.Text.Utf8

namespace Loopback.Text

/-! ## Model -/

/-- the digits of a number in base 16 -/
def hexNumber (n : Nat) : List Char :=
  Nat.toDigits 16 n

/-- the form of one character between quotes -/
def quotedChar (c : Char) : List Char :=
  if c == '\x00' then ['\\', '0']
  else if c == '\t' then ['\\', 't']
  else if c == '\r' then ['\\', 'r']
  else if c == '\n' then ['\\', 'n']
  else if c == '\\' || c == '"' then ['\\', c]
  else if isCombining c || !isPrintable c then ['\\', 'u', '\x7b'] ++ hexNumber c.toNat ++ ['\x7d']
  else [c]

/-- a text between quotes -/
def quoted (s : String) : String :=
  String.ofList ('"' :: s.toList.flatMap quotedChar ++ ['"'])

/-- texts between quotes, in brackets -/
def quotedList (l : List String) : String :=
  "[" ++ ", ".intercalate (l.map quoted) ++ "]"

/-- an optional value: `None`, or `Some(..)` around its form -/
def optional {α : Type} (form : α → String) : Option α → String
  | none => "None"
  | some a => "Some(" ++ form a ++ ")"

end Loopback.Text
