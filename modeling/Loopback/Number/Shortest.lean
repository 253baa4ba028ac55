/-
The shortest decimal that reads back as a floating-point number.

A finite number is `m · 2^q`; the reals that round to it fill an interval, ends included exactly when `m` is even. For
1, 2, … digits the two neighbours of the number on that decimal grid are tested: the first grid with a hit wins, of two
hits the nearer, and an exact tie goes to the even digit. Everything is exact arithmetic on natural numbers.
-/
namespace Loopback.Shortest

/-! ## Binary numbers -/

/-- a format of floating-point numbers -/
structure Format where
  /-- stored bits of the significand -/
  fraction : Nat
  /-- bits of the exponent -/
  exponent : Nat
  /-- digits that always suffice -/
  digits : Nat
  /-- the least and the greatest exponent of the leading digit that are written without an exponent -/
  least : Int
  greatest : Int
deriving DecidableEq, Repr

/-- numbers of 64 bits -/
def double : Format := ⟨52, 11, 17, -5, 15⟩

/-- numbers of 32 bits -/
def single : Format := ⟨23, 8, 9, -6, 12⟩

/-- a number `± m · 2^q`; `narrow` says that the gap below it is half the gap above -/
structure Binary where
  negative : Bool
  m : Nat
  q : Int
  narrow : Bool
deriving DecidableEq, Repr

/-- the number of a bit pattern, if it is finite -/
def ofBits (f : Format) (bits : Nat) : Option Binary :=
  let stored := bits % Nat.pow 2 f.fraction
  let e := bits / Nat.pow 2 f.fraction % Nat.pow 2 f.exponent
  let negative := bits / Nat.pow 2 (f.fraction + f.exponent) % 2 = 1
  let least : Int := 2 - (Nat.pow 2 (f.exponent - 1) : Int) - f.fraction
  if e = Nat.pow 2 f.exponent - 1 then none
  else if e = 0 then some ⟨negative, stored, least, false⟩
  else some ⟨negative, Nat.pow 2 f.fraction + stored, least + (e - 1 : Nat), stored = 0 && 1 < e⟩

/-! ## Decimal grids -/

/-- a decimal `digits · 10^exp` -/
structure Decimal where
  digits : Nat
  exp : Int
deriving DecidableEq, Repr

/-- a non-negative quotient scaled by a power of ten -/
def scale (num den : Nat) (e : Int) : Nat × Nat :=
  if 0 ≤ e then (num, den * Nat.pow 10 e.toNat) else (num * Nat.pow 10 (-e).toNat, den)

/-- the number of decimal digits -/
def digitCount (n : Nat) : Nat := (Nat.toDigits 10 n).length

/-- the exponent of the leading digit of a positive quotient -/
def leading (num den : Nat) : Int :=
  let k : Int := (digitCount num : Int) - digitCount den
  let (n, d) := scale num den k
  if d ≤ n then k else k - 1

/-- drop the zeros at the end of a decimal; at most `fuel` of them -/
def strip : Nat → Decimal → Decimal
  | 0, d => d
  | fuel + 1, d => if d.digits ≠ 0 ∧ d.digits % 10 = 0 then strip fuel ⟨d.digits / 10, d.exp + 1⟩ else d

/-- the decimal with the exponent `e` that reads back as `4m / 4 · 2^q`, if there is one -/
def onGrid (lo mid hi den : Nat) (closed : Bool) (e : Int) : Option Decimal :=
  let (_, d) := scale mid den e
  let at' (x : Nat) : Nat := (scale x den e).1
  let below := at' mid / d
  let inside (c : Nat) : Bool :=
    if closed then at' lo ≤ c * d && c * d ≤ at' hi else at' lo < c * d && c * d < at' hi
  let gapBelow := at' mid - below * d
  let gapAbove := (below + 1) * d - at' mid
  match inside below, inside (below + 1) with
  | false, false => none
  | true, false => some ⟨below, e⟩
  | false, true => some ⟨below + 1, e⟩
  | true, true =>
    if gapBelow < gapAbove ∨ (gapBelow = gapAbove ∧ below % 2 = 0) then some ⟨below, e⟩ else some ⟨below + 1, e⟩

/-- try grids of more and more digits -/
def search (lo mid hi den : Nat) (closed : Bool) : (tries : Nat) → Int → Decimal
  | 0, e => ⟨(scale mid den e).1 / (scale mid den e).2, e⟩
  | k + 1, e => match onGrid lo mid hi den closed e with
    | some d => d
    | none => search lo mid hi den closed k (e - 1)

/-- the shortest decimal of a positive number -/
def decimal (f : Format) (b : Binary) : Decimal :=
  let up := Nat.pow 2 b.q.toNat
  let den := 4 * Nat.pow 2 (-b.q).toNat
  let mid := 4 * b.m * up
  let hi := (4 * b.m + 2) * up
  let lo := (4 * b.m - if b.narrow then 1 else 2) * up
  let d := search lo mid hi den (b.m % 2 = 0) f.digits (leading mid den)
  strip (digitCount d.digits) d

/-! ## Text -/

/-- zeros -/
def zeros (n : Nat) : String := String.ofList (List.replicate n '0')

/-- a positive decimal: a point and at least one digit after it, or an exponent with its sign -/
def Decimal.text (f : Format) (d : Decimal) : String :=
  let ds := Nat.toDigits 10 d.digits
  let lead : Int := d.exp + ds.length - 1
  if f.least ≤ lead ∧ lead ≤ f.greatest then
    if 0 ≤ d.exp then String.ofList ds ++ zeros d.exp.toNat ++ ".0"
    else if 0 ≤ lead then
      String.ofList (ds.take (lead.toNat + 1)) ++ "." ++ String.ofList (ds.drop (lead.toNat + 1))
    else "0." ++ zeros (-lead - 1).toNat ++ String.ofList ds
  else
    let point := if ds.length = 1 then "" else "."
    String.ofList (ds.take 1) ++ point ++ String.ofList (ds.drop 1) ++ "e" ++
      (if lead < 0 then "-" else "+") ++ toString lead.natAbs

/-- the text of a bit pattern, if it is finite -/
def text? (f : Format) (bits : Nat) : Option String := do
  let b ← ofBits f bits
  let sign := if b.negative then "-" else ""
  if b.m = 0 then return sign ++ "0.0"
  return sign ++ (decimal f b).text f

end Loopback.Shortest
