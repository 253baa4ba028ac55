/-
Literals of declarations.

Strings between quotes and raw strings, in three dialects (text, bytes, texts ended by a NUL), characters, bytes and
numbers. A scanner takes a literal off the front of a text and gives the rest, or refuses. A quoted string is read one
character at a time by a machine whose state is what the last characters began.
-/
import Loopback.Text.Identifier

namespace Loopback.Declaration

/-! ## Identifier characters -/

/-- drop an identifier from the front, if there is one -/
def dropIdentifier : List Char → List Char
  | c :: r => if Text.isIdentifierStart c then r.dropWhile Text.isIdentifierRest else c :: r
  | [] => []

/-- the text, unless it goes on with a character of an identifier -/
def wordBreak : List Char → Option (List Char)
  | c :: r => if Text.isIdentifierRest c then none else some (c :: r)
  | [] => some []

/-- whether a text opens with the characters of another -/
def opensWith (text : String) (cs : List Char) : Bool :=
  text.toList.isPrefixOf cs

/-! ## Quoted strings -/

/-- what a string of a kind may hold -/
structure Dialect where
  /-- only ASCII characters -/
  ascii : Bool
  /-- code points written in braces -/
  codePoints : Bool
  /-- NUL characters -/
  nul : Bool
  /-- two digits in base 16 beyond ASCII -/
  wide : Bool

namespace Dialect

def text : Dialect := ⟨false, true, true, false⟩

def bytes : Dialect := ⟨true, false, true, true⟩

/-- texts ended by a NUL -/
def terminated : Dialect := ⟨false, true, false, true⟩

end Dialect

/-- the value of a digit in base 16 -/
def digitValue? (c : Char) : Option Nat :=
  if '0' ≤ c && c ≤ '9' then some (c.toNat - 48)
  else if 'a' ≤ c && c ≤ 'f' then some (c.toNat - 87)
  else if 'A' ≤ c && c ≤ 'F' then some (c.toNat - 55)
  else none

namespace Quoted

/-- what the characters just read have begun -/
inductive State where
  | plain
  /-- a carriage return, which a line feed must follow -/
  | carriage
  /-- a backslash -/
  | escape
  /-- a backslash before a line end: blanks are skipped -/
  | joined
  /-- a carriage return among skipped blanks -/
  | joinedCarriage
  | highDigit
  | lowDigit (high : Nat)
  /-- an escape that must go on with a brace -/
  | brace
  /-- the digits of a code point -/
  | digits (value count : Nat)
deriving DecidableEq, Repr

/-- a character of the value -/
def value (d : Dialect) (c : Char) : Option (State × Option Char) :=
  if c == '\x00' && !d.nul then none else some (.plain, some c)

/-- read a character outside escapes -/
def plainStep (d : Dialect) (c : Char) : Option (State × Option Char) :=
  if c == '\r' then some (.carriage, none)
  else if c == '\\' then some (.escape, none)
  else if d.ascii && 0x80 ≤ c.toNat then none
  else value d c

/-- read a character: the state after it, and the character of the value it completes -/
def step (d : Dialect) (s : State) (c : Char) : Option (State × Option Char) :=
  match s with
  | .plain => plainStep d c
  | .carriage => if c == '\n' then some (.plain, some '\n') else none
  | .escape =>
    match c with
    | 'n' => value d '\n'
    | 'r' => value d '\r'
    | 't' => value d '\t'
    | '0' => value d '\x00'
    | '\\' => value d '\\'
    | '\'' => value d '\''
    | '"' => value d '"'
    | 'x' => some (.highDigit, none)
    | 'u' => if d.codePoints then some (.brace, none) else none
    | '\n' => some (.joined, none)
    | '\r' => some (.joinedCarriage, none)
    | _ => none
  | .joined =>
    if c == ' ' || c == '\t' || c == '\n' then some (.joined, none)
    else if c == '\r' then some (.joinedCarriage, none)
    else plainStep d c
  | .joinedCarriage => if c == '\n' then some (.joined, none) else none
  | .highDigit => do
    let h ← digitValue? c
    if !d.wide && 8 ≤ h then none else some (.lowDigit h, none)
  | .lowDigit h => do
    let l ← digitValue? c
    value d (Char.ofNat (16 * h + l))
  | .brace => if c == '\x7b' then some (.digits 0 0, none) else none
  | .digits v n =>
    if c == '_' && n != 0 then some (.digits v n, none)
    else if c == '\x7d' && n != 0 then if v.isValidChar then value d (Char.ofNat v) else none
    else do
      let h ← digitValue? c
      if n == 6 then none else some (.digits (16 * v + h) (n + 1), none)

/-- whether a quote ends the string here -/
def State.mayEnd : State → Bool
  | .plain => true
  | .joined => true
  | _ => false

/-- read a string up to its closing quote: its value and the rest -/
def scan (d : Dialect) (s : State) : List Char → Option (List Char × List Char)
  | [] => none
  | c :: r =>
    if c == '"' && s.mayEnd then some ([], r)
    else match step d s c with
      | none => none
      | some (s', v) => (scan d s' r).map fun (vs, rest) => (v.toList ++ vs, rest)

/-- read the one character that an escape stands for -/
def scanOne (d : Dialect) (s : State) : List Char → Option (List Char)
  | [] => none
  | c :: r => match step d s c with
    | none => none
    | some (_, some _) => some r
    | some (.joined, _) => none
    | some (.joinedCarriage, _) => none
    | some (s', none) => scanOne d s' r

end Quoted

/-! ## Raw strings -/

namespace Raw

/-- the number of `#` before the opening quote, and what follows the quote -/
def opening (pounds : Nat) : List Char → Option (Nat × List Char)
  | '"' :: r => if 255 < pounds then none else some (pounds, r)
  | '#' :: r => opening (pounds + 1) r
  | _ => none

/-- read a raw string up to a quote with as many `#`: its value and the rest -/
def body (d : Dialect) (pounds : Nat) : List Char → Option (List Char × List Char)
  | [] => none
  | '\r' :: '\n' :: r => (body d pounds r).map fun (vs, rest) => ('\r' :: '\n' :: vs, rest)
  | c :: r =>
    if c == '"' && (List.replicate pounds '#').isPrefixOf r then some ([], r.drop pounds)
    else if c == '\r' || (d.ascii && 0x80 ≤ c.toNat) || (!d.nul && c == '\x00') then none
    else (body d pounds r).map fun (vs, rest) => (c :: vs, rest)

/-- read a raw string from its first `#` or quote -/
def scan (d : Dialect) (cs : List Char) : Option (List Char × List Char) := do
  let (pounds, r) ← opening 0 cs
  body d pounds r

end Raw

/-! ## Characters and bytes -/

/-- the rest after a closing apostrophe and a suffix -/
def closeApostrophe : List Char → Option (List Char)
  | '\'' :: r => some (dropIdentifier r)
  | _ => none

/-- read a character or byte after its opening apostrophe -/
def scanCharacter (d : Dialect) : List Char → Option (List Char)
  | '\\' :: r => Quoted.scanOne d .escape r >>= closeApostrophe
  | c :: r => if d.ascii && 0x80 ≤ c.toNat then none else closeApostrophe r
  | [] => none

/-! ## Numbers -/

/-- read the digits of an integer: at least one below the base; a decimal digit beyond it is refused -/
def scanDigits (base : Nat) (empty : Bool) : List Char → Option (List Char)
  | [] => if empty then none else some []
  | c :: r =>
    if c == '_' then if empty && base == 10 then none else scanDigits base empty r
    else match digitValue? c with
      | some v =>
        if v < base then scanDigits base false r
        else if c.isDigit || empty then none
        else some (c :: r)
      | none => if empty then none else some (c :: r)

/-- read an integer with its suffix -/
def scanInteger (cs : List Char) : Option (List Char) := do
  let rest ←
    if opensWith "0x" cs then scanDigits 16 true (cs.drop 2)
    else if opensWith "0o" cs then scanDigits 8 true (cs.drop 2)
    else if opensWith "0b" cs then scanDigits 2 true (cs.drop 2)
    else scanDigits 10 true cs
  wordBreak (dropIdentifier rest)

/-- how the digits before an exponent end -/
inductive MantissaEnd where
  | exponent
  | stop
deriving DecidableEq, Repr

/-- read the digits before an exponent: whether they hold a point, how they end and the rest, from the letter of the
exponent on; a point before another point or an identifier is none of theirs -/
def scanMantissa (point : Bool) : List Char → Option (Bool × MantissaEnd × List Char)
  | [] => some (point, .stop, [])
  | c :: r =>
    if c.isDigit || c == '_' then scanMantissa point r
    else if c == '.' && !point then
      match r with
      | [] => some (true, .stop, [])
      | n :: r' => if n == '.' || Text.isIdentifierStart n then none else scanMantissa true (n :: r')
    else if c == 'e' || c == 'E' then some (point, .exponent, c :: r)
    else some (point, .stop, c :: r)

/-- read an exponent after its letter: a sign and at least one digit -/
def scanExponent (signed valued : Bool) : List Char → Option (List Char)
  | [] => if valued then some [] else none
  | c :: r =>
    if c == '+' || c == '-' then
      if valued then some (c :: r) else if signed then none else scanExponent true valued r
    else if c.isDigit then scanExponent signed true r
    else if c == '_' then scanExponent signed valued r
    else if valued then some (c :: r) else none

/-- read a number with a point or an exponent, and its suffix -/
def scanFraction : List Char → Option (List Char)
  | [] => none
  | c :: r =>
    if !c.isDigit then none
    else do
      let (point, ending, rest) ← scanMantissa false r
      let rest ← match ending with
        | .exponent => match scanExponent false false (rest.drop 1) with
          | some after => some after
          | none => if point then some rest else none
        | .stop => if point then some rest else none
      wordBreak (dropIdentifier rest)

/-! ## Literals -/

/-- read a quoted or raw string with its suffix after the letters that announce it -/
def scanString (d : Dialect) (letters : String) (cs : List Char) : Option (List Char × List Char) :=
  if opensWith (letters ++ "\"") cs then
    (Quoted.scan d .plain (cs.drop (letters.length + 1))).map fun (v, rest) => (v, dropIdentifier rest)
  else if opensWith (letters ++ "r") cs then
    (Raw.scan d (cs.drop (letters.length + 1))).map fun (v, rest) => (v, dropIdentifier rest)
  else none

/-- take a literal off the front of a text: the rest -/
def scanLiteral (cs : List Char) : Option (List Char) :=
  ((scanString .text "" cs).map Prod.snd)
    <|> ((scanString .bytes "b" cs).map Prod.snd)
    <|> ((scanString .terminated "c" cs).map Prod.snd)
    <|> (if opensWith "b'" cs then scanCharacter .bytes (cs.drop 2) else none)
    <|> (if opensWith "'" cs then scanCharacter .text (cs.drop 1) else none)
    <|> scanFraction cs
    <|> scanInteger cs

/-- the value of digits in a base, underscores among them left out; none if there is anything else -/
def digitsValue? (base : Nat) (cs : List Char) : Option Nat :=
  (cs.filter (· != '_')).foldlM (fun n c => do
    let v ← digitValue? c
    if v < base then some (base * n + v) else none) 0

/-- the number of a field: an integer without a suffix that fits in 32 bits -/
def fieldNumber? (literal : String) : Option Nat := do
  let cs := literal.toList
  let n ←
    if opensWith "0x" cs then digitsValue? 16 (cs.drop 2)
    else if opensWith "0o" cs then digitsValue? 8 (cs.drop 2)
    else if opensWith "0b" cs then digitsValue? 2 (cs.drop 2)
    else if cs.head?.any Char.isDigit then digitsValue? 10 cs
    else none
  if n < 4294967296 then return n else none

/-- the value of a string literal; none for any other literal -/
def stringValue? (literal : String) : Option String :=
  (scanString .text "" literal.toList).map fun (v, _) => String.ofList v

end Loopback.Declaration
