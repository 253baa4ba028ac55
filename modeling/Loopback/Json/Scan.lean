/-
The lexical layer of JSON: blanks, texts and numbers, with the faults of each and the place of a fault.

A `Scanner` runs on the bytes that are left and keeps them also when it fails. A fault knows how many bytes were left
at its place, from which `place` finds the line and the column. A fault of meaning (a wrong type, a missing field) has
no place at first; `located` gives it the one where it is caught.
-/
import Loopback.Number.Shortest
import Loopback.Text.Quoted
import Loopback.Text.Utf8

namespace Loopback.Json

/-! ## Faults -/

/-- what is wrong with a text -/
inductive Cause where
  | endOfList
  | endOfObject
  | endOfText
  | endOfValue
  | expectedColon
  | expectedListEnd
  | expectedObjectEnd
  | expectedIdent
  | expectedValue
  | badEscape
  | badNumber
  | numberRange
  | badCodePoint
  | controlCharacter
  | keyNotText
  | loneSurrogate
  | trailingComma
  | trailingCharacters
  | endOfEscape
  | tooDeep
  /-- the text is well-formed but does not fit the type -/
  | meaning (message : String)
deriving DecidableEq, Repr

def Cause.message : Cause → String
  | endOfList => "EOF while parsing a list"
  | endOfObject => "EOF while parsing an object"
  | endOfText => "EOF while parsing a string"
  | endOfValue => "EOF while parsing a value"
  | expectedColon => "expected `:`"
  | expectedListEnd => "expected `,` or `]`"
  | expectedObjectEnd => "expected `,` or `\x7d`"
  | expectedIdent => "expected ident"
  | expectedValue => "expected value"
  | badEscape => "invalid escape"
  | badNumber => "invalid number"
  | numberRange => "number out of range"
  | badCodePoint => "invalid unicode code point"
  | controlCharacter => "control character (\\u0000-\\u001F) found while parsing a string"
  | keyNotText => "key must be a string"
  | loneSurrogate => "lone leading surrogate in hex escape"
  | trailingComma => "trailing comma"
  | trailingCharacters => "trailing characters"
  | endOfEscape => "unexpected end of hex escape"
  | tooDeep => "recursion limit exceeded"
  | meaning m => m

/-- a fault, and how many bytes were left at its place -/
structure Fault where
  cause : Cause
  left : Option Nat
deriving DecidableEq, Repr

/-- a reader of bytes that keeps them when it fails -/
abbrev Scanner := ExceptT Fault (StateM Bytes)

/-- a place in a text: its line from 1, and the bytes read of that line -/
structure Place where
  line : Nat
  column : Nat
deriving DecidableEq, Repr

/-- the place after some bytes -/
def Place.after (bs : Bytes) : Place :=
  ⟨1 + bs.count 10, (bs.reverse.takeWhile (· != 10)).length⟩

/-- the place of a fault in an input -/
def Fault.place (f : Fault) (input : Bytes) : Option Place :=
  f.left.map fun n => .after (input.take (input.length - n))

/-! ## Scanning -/

namespace Scanner

/-- the bytes that are left -/
def rest : Scanner Bytes := get

/-- the next byte, which stays -/
def peek : Scanner (Option UInt8) := return (← get).head?

/-- drop the next byte -/
def eat : Scanner Unit := modify List.tail

/-- fail at the end of what was read -/
def failHere {α : Type} (c : Cause) : Scanner α := do
  throw ⟨c, some (← get).length⟩

/-- fail just after the next byte -/
def failNext {α : Type} (c : Cause) : Scanner α := do
  throw ⟨c, some ((← get).length - 1)⟩

/-- fail with a fault of meaning -/
def failMeaning {α : Type} (m : String) : Scanner α := throw ⟨.meaning m, none⟩

/-- give a fault of meaning the place where it is caught -/
def located {α : Type} (s : Scanner α) : Scanner α :=
  tryCatch s fun f => do
    throw ⟨f.cause, f.left.or (some (← get).length)⟩

/-- run a scanner, then another one even after a fault; the first fault wins -/
def andThen {α : Type} (s : Scanner α) (closing : Scanner Unit) : Scanner α := fun bs =>
  match s bs with
  | (.ok a, r) =>
    match closing r with
    | (.ok _, r') => (.ok a, r')
    | (.error f, r') => (.error f, r')
  | (.error f, r) => (.error f, (closing r).2)

end Scanner

open Scanner

/-- a blank byte -/
def isBlank (b : UInt8) : Bool := b == 0x20 || b == 0x0a || b == 0x09 || b == 0x0d

/-- skip blanks and look at the next byte -/
def peekToken : Scanner (Option UInt8) := do
  modify (List.dropWhile isBlank)
  peek

def isDigit (b : UInt8) : Bool := 0x30 ≤ b && b ≤ 0x39

def digitValue (b : UInt8) : Nat := b.toNat - 0x30

/-- the bytes of a word follow -/
def expectRest : Bytes → Scanner Unit
  | [] => return ()
  | b :: r => do
    match ← peek with
    | none => failHere .endOfValue
    | some c => do
      eat
      if c == b then expectRest r else failHere .expectedIdent

/-! ## Texts -/

/-- the value of a hexadecimal digit -/
def hexValue (b : UInt8) : Option Nat :=
  if isDigit b then some (b.toNat - 0x30)
  else if 0x61 ≤ b && b ≤ 0x66 then some (b.toNat - 0x57)
  else if 0x41 ≤ b && b ≤ 0x46 then some (b.toNat - 0x37)
  else none

/-- four hexadecimal digits -/
def hexEscape : Scanner Nat := do
  match ← rest with
  | a :: b :: c :: d :: r => do
    set r
    match hexValue a, hexValue b, hexValue c, hexValue d with
    | some a, some b, some c, some d => return ((a * 16 + b) * 16 + c) * 16 + d
    | _, _, _, _ => failHere .badEscape
  | _ => do
    set ([] : Bytes)
    failHere .endOfText

/-- the next byte must be `b`, else the escape is not complete -/
def expectEscapeByte (b : UInt8) : Scanner Unit := do
  match ← peek with
  | none => failHere .endOfText
  | some c => do
    eat
    if c == b then return () else failHere .endOfEscape

/-- a code point by its hexadecimal digits, or by those of two surrogates -/
def unicodeEscape : Scanner Bytes := do
  let n ← hexEscape
  if 0xdc00 ≤ n && n ≤ 0xdfff then failHere .loneSurrogate
  if n < 0xd800 || 0xdbff < n then return Text.utf8 (Char.ofNat n).toString
  expectEscapeByte 0x5c
  expectEscapeByte 0x75
  let m ← hexEscape
  if m < 0xdc00 || 0xdfff < m then failHere .loneSurrogate
  return Text.utf8 (Char.ofNat ((n - 0xd800) * 0x400 + (m - 0xdc00) + 0x10000)).toString

/-- what a byte after a backslash stands for -/
def simpleEscape (b : UInt8) : Option UInt8 :=
  if b == 0x22 || b == 0x5c || b == 0x2f then some b
  else if b == 0x62 then some 0x08
  else if b == 0x66 then some 0x0c
  else if b == 0x6e then some 0x0a
  else if b == 0x72 then some 0x0d
  else if b == 0x74 then some 0x09
  else none

/-- the bytes of an escape, after its backslash -/
def escaped : Scanner Bytes := do
  match ← peek with
  | none => failHere .endOfText
  | some b => do
    eat
    match simpleEscape b with
    | some c => return [c]
    | none => if b == 0x75 then unicodeEscape else failHere .badEscape

/-- the bytes of a text up to its closing quote; each round takes a byte -/
def textBytes : (fuel : Nat) → Scanner Bytes
  | 0 => failHere .endOfText
  | fuel + 1 => do
    match ← peek with
    | none => failHere .endOfText
    | some b => do
      eat
      if b == 0x22 then return []
      else if b == 0x5c then do
        let bs ← escaped
        let more ← textBytes fuel
        return bs ++ more
      else if b < 0x20 then failHere .controlCharacter
      else do
        let more ← textBytes fuel
        return b :: more

/-- a text after its opening quote -/
def textRest : Scanner String := do
  let bs ← textBytes ((← rest).length + 1)
  match Text.ofUtf8? bs with
  | some s => return s
  | none => failHere .badCodePoint

/-- skip an escape, after its backslash -/
def skipEscape : Scanner Unit := do
  match ← peek with
  | none => failHere .endOfText
  | some b => do
    eat
    if (simpleEscape b).isSome then return ()
    else if b == 0x75 then do
      let _ ← hexEscape
      return ()
    else failHere .badEscape

/-- skip a text up to its closing quote -/
def skipText : (fuel : Nat) → Scanner Unit
  | 0 => failHere .endOfText
  | fuel + 1 => do
    match ← peek with
    | none => failHere .endOfText
    | some b =>
      if b == 0x22 then eat
      else if b == 0x5c then do
        eat
        skipEscape
        skipText fuel
      else if b < 0x20 then failHere .controlCharacter
      else do
        eat
        skipText fuel

/-! ## Numbers -/

/-- a number as it is read: natural, negative, or floating-point -/
inductive Numeral where
  | natural (n : Nat)
  | negative (i : Int)
  | float (x : Float)

/-- the largest significand -/
def maxSignificand : Nat := Nat.pow 2 64 - 1

/-- the digits that follow -/
def digits : Scanner (List Nat) := do
  let bs ← rest
  set (bs.dropWhile isDigit)
  return (bs.takeWhile isDigit).map digitValue

/-- take digits into a significand while it fits, and count the ones taken and the spare ones -/
def accumulate (n : Nat) : List Nat → Nat × Nat × Nat
  | [] => (n, 0, 0)
  | d :: r =>
    if maxSignificand < n * 10 + d then (n, 0, (d :: r).length)
    else
      let (m, taken, spare) := accumulate (n * 10 + d) r
      (m, taken + 1, spare)

/-- a power of ten -/
def powerOfTen (n : Nat) : Float := Float.ofScientific 1 false n

/-- `n · 10^e` by one multiplication or division for each 308 places, or nothing when it is too large -/
def scaled (fuel : Nat) (x : Float) (e : Int) : Option Float :=
  if e.natAbs ≤ 308 then
    if 0 ≤ e then
      let y := x * powerOfTen e.natAbs
      if y.isInf then none else some y
    else some (x / powerOfTen e.natAbs)
  else if x == 0.0 then some x
  else if 0 ≤ e then none
  else match fuel with
    | 0 => some 0.0
    | fuel + 1 => scaled fuel (x / powerOfTen 308) (e + 308)

/-- the floating-point number of a significand and an exponent; after a few steps nothing is left of it -/
def ofParts (positive : Bool) (n : Nat) (e : Int) : Scanner Float := do
  match scaled 8 n.toUInt64.toFloat e with
  | some x => return if positive then x else -x
  | none => failHere .numberRange

/-- the digits of an exponent, as long as they fit 32 bits with a sign -/
def exponentDigits : (fuel n : Nat) → Scanner (Option Nat)
  | 0, n => return some n
  | fuel + 1, n => do
    match ← peek with
    | some b =>
      if isDigit b then do
        eat
        let m := n * 10 + digitValue b
        if Nat.pow 2 31 ≤ m then return none else exponentDigits fuel m
      else return some n
    | none => return some n

/-- the least and the greatest exponent -/
def clampExponent (e : Int) : Int := max (-(Nat.pow 2 31 : Int)) (min e (Nat.pow 2 31 - 1 : Nat))

/-- an exponent, from its letter on -/
def exponentPart (positive : Bool) (n : Nat) (e : Int) : Scanner Float := do
  eat
  let plus ← match ← peek with
    | some 0x2b => do eat; pure true
    | some 0x2d => do eat; pure false
    | _ => pure true
  match ← peek with
  | none => failHere .endOfValue
  | some b => do
    eat
    if isDigit b then
      match ← exponentDigits (← rest).length (digitValue b) with
      | some k => ofParts positive n (clampExponent (if plus then e + k else e - k))
      | none =>
        if n ≠ 0 ∧ plus then failHere .numberRange
        else do
          let _ ← digits
          return if positive then 0.0 else -0.0
    else failHere .badNumber

/-- a decimal part, from its point on -/
def decimalPart (positive : Bool) (n : Nat) (e : Int) : Scanner Float := do
  eat
  let ds ← digits
  if ds.isEmpty then
    match ← peek with
    | some _ => failNext .badNumber
    | none => failNext .endOfValue
  let (m, taken, _) := accumulate n ds
  let e' := e - taken
  match ← peek with
  | some 0x65 => exponentPart positive m e'
  | some 0x45 => exponentPart positive m e'
  | _ => ofParts positive m e'

/-- what follows the digits before the point; `spare` of them did not fit the significand -/
def numeralRest (positive : Bool) (n spare : Nat) : Scanner Numeral := do
  match ← peek with
  | some 0x2e => return .float (← decimalPart positive n spare)
  | some 0x65 => return .float (← exponentPart positive n spare)
  | some 0x45 => return .float (← exponentPart positive n spare)
  | _ =>
    if spare ≠ 0 then return .float (← ofParts positive n spare)
    else if positive then return .natural n
    else if n = 0 ∨ Nat.pow 2 63 < n then return .float (-n.toUInt64.toFloat)
    else return .negative (-n)

/-- a number after its sign -/
def numeral (positive : Bool) : Scanner Numeral := do
  match ← peek with
  | none => failHere .endOfValue
  | some 0x30 => do
    eat
    match ← peek with
    | some b => if isDigit b then failNext .badNumber else numeralRest positive 0 0
    | none => numeralRest positive 0 0
  | some b =>
    if isDigit b then do
      let ds ← digits
      let (n, _, spare) := accumulate 0 ds
      numeralRest positive n spare
    else do
      eat
      failHere .badNumber

/-! ## Values that are not wanted -/

/-- skip the digits that follow -/
def skipDigits : Scanner Unit := do
  let _ ← digits
  return ()

/-- skip an exponent, from its letter on -/
def skipExponent : Scanner Unit := do
  eat
  match ← peek with
  | some 0x2b => eat
  | some 0x2d => eat
  | _ => pure ()
  match ← peek with
  | some b => do
    eat
    if isDigit b then skipDigits else failHere .badNumber
  | none => failHere .badNumber

/-- skip a number after its sign -/
def skipNumber : Scanner Unit := do
  match ← peek with
  | some 0x30 => do
    eat
    match ← peek with
    | some b => if isDigit b then failNext .badNumber else pure ()
    | none => pure ()
  | some b => do
    if isDigit b then skipDigits
    else do
      eat
      failHere .badNumber
  | none => failHere .badNumber
  match ← peek with
  | some 0x2e => do
    eat
    let ds ← digits
    if ds.isEmpty then failNext .badNumber
    match ← peek with
    | some 0x65 => skipExponent
    | some 0x45 => skipExponent
    | _ => pure ()
  | some 0x65 => skipExponent
  | some 0x45 => skipExponent
  | _ => pure ()

/-- what a value stands in -/
inductive Frame where
  | list
  | object
deriving DecidableEq, Repr

/-- skip a key and its colon -/
def skipKey : Scanner Unit := do
  match ← peekToken with
  | some 0x22 => eat
  | some _ => failNext .keyNotText
  | none => failNext .endOfObject
  skipText ((← rest).length + 1)
  match ← peekToken with
  | some 0x3a => eat
  | some _ => failNext .expectedColon
  | none => failNext .endOfObject

/-- what is skipped next: a value, or what follows one (a comma only after a value) -/
inductive Awaited where
  | value
  | close (afterValue : Bool)

/-- skip a value inside open frames; each round takes a byte or ends -/
def skipIn : (fuel : Nat) → Awaited → List Frame → Scanner Unit
  | 0, _, _ => return ()
  | fuel + 1, .value, frames => do
    match ← peekToken with
    | none => failNext .endOfValue
    | some 0x6e => do eat; expectRest [0x75, 0x6c, 0x6c]; skipIn fuel (.close true) frames
    | some 0x74 => do eat; expectRest [0x72, 0x75, 0x65]; skipIn fuel (.close true) frames
    | some 0x66 => do eat; expectRest [0x61, 0x6c, 0x73, 0x65]; skipIn fuel (.close true) frames
    | some 0x2d => do eat; skipNumber; skipIn fuel (.close true) frames
    | some 0x22 => do eat; skipText ((← rest).length + 1); skipIn fuel (.close true) frames
    | some 0x5b => do eat; skipIn fuel (.close false) (.list :: frames)
    | some 0x7b => do eat; skipIn fuel (.close false) (.object :: frames)
    | some b => do
      if isDigit b then do
        skipNumber
        skipIn fuel (.close true) frames
      else failNext .expectedValue
  | _ + 1, .close _, [] => return ()
  | fuel + 1, .close afterValue, frame :: frames => do
    match ← peekToken, frame with
    | some 0x5d, .list => do eat; skipIn fuel (.close true) frames
    | some 0x7d, .object => do eat; skipIn fuel (.close true) frames
    | none, .list => failNext .endOfList
    | none, .object => failNext .endOfObject
    | some b, _ =>
      if afterValue then
        if b == 0x2c then do
          eat
          member fuel frame frames
        else failNext (match frame with | .list => .expectedListEnd | .object => .expectedObjectEnd)
      else member fuel frame frames
where
  /-- the next item of a frame -/
  member (fuel : Nat) (frame : Frame) (frames : List Frame) : Scanner Unit := do
    if frame = .object then skipKey
    skipIn fuel .value (frame :: frames)

/-- skip a value -/
def skipValue : Scanner Unit := do
  skipIn (3 * (← rest).length + 3) .value []

end Loopback.Json
