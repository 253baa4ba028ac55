/-
Numbers in groups of seven bits, the lowest group first.

Every byte but the last has its top bit set. A reader of `bits`-bit words takes at most `places bits` bytes, and the
last of them may hold only the bits that are left; longer forms of a small number are accepted.
- `read_write`: a written word reads back, whatever follows it;
- `unzigzag_zigzag`: a signed number is sent as a natural number, small ones as small ones.
-/
import Loopback.Text.Utf8

namespace Loopback.Varint

/-! ## Model -/

/-- the bytes of a number -/
def write (n : Nat) : Bytes :=
  if n < 128 then [UInt8.ofNat n] else UInt8.ofNat (n % 128 + 128) :: write (n / 128)
termination_by n

/-- why a number cannot be read -/
inductive Fault where
  | endOfInput
  | tooLong
deriving DecidableEq, Repr

/-- read a number of at most `places` bytes, the last of them at most `top` -/
def readPlaces : (places top : Nat) → Bytes → Except Fault (Nat × Bytes)
  | 0, _, _ => .error .tooLong
  | _ + 1, _, [] => .error .endOfInput
  | k + 1, top, b :: r =>
    if b.toNat < 128 then
      if k = 0 ∧ top < b.toNat then .error .tooLong else .ok (b.toNat, r)
    else
      match readPlaces k top r with
      | .ok (n, r') => .ok (b.toNat - 128 + 128 * n, r')
      | .error e => .error e

/-- the most bytes of a word of `bits` bits -/
def places (bits : Nat) : Nat := (bits + 6) / 7

/-- the largest last byte of a word of `bits` bits -/
def top (bits : Nat) : Nat := Nat.pow 2 (bits - 7 * (places bits - 1)) - 1

/-- read a word of `bits` bits -/
def read (bits : Nat) (bs : Bytes) : Except Fault (Nat × Bytes) :=
  readPlaces (places bits) (top bits) bs

/-- a signed number as a natural number -/
def zigzag (i : Int) : Nat :=
  if 0 ≤ i then 2 * i.toNat else 2 * (-i).toNat - 1

/-- the signed number of a natural number -/
def unzigzag (n : Nat) : Int :=
  if n % 2 = 0 then (n / 2 : Nat) else -((n + 1) / 2 : Nat)

/-! ## Main results -/

theorem readPlaces_write {k top n : Nat} {rest : Bytes} (h : n < Nat.pow 128 k * (top + 1)) (ht : top < 128) :
    readPlaces (k + 1) top (write n ++ rest) = .ok (n, rest) := by
  induction k generalizing n with
  | zero =>
    have h : n < 1 * (top + 1) := h
    have hn : n < 128 := by omega
    rw [write, if_pos hn]
    have hb : (UInt8.ofNat n).toNat = n := by simp; omega
    simp only [List.cons_append, List.nil_append, readPlaces, hb, if_pos hn]
    rw [if_neg (by omega)]
  | succ k ih =>
    rw [write]
    split
    · next hn =>
      have hb : (UInt8.ofNat n).toNat = n := by simp; omega
      simp only [List.cons_append, List.nil_append, readPlaces, hb, if_pos hn]
      rw [if_neg (by omega)]
    · next hn =>
      have hb : (UInt8.ofNat (n % 128 + 128)).toNat = n % 128 + 128 := by simp; omega
      have hq : n / 128 < Nat.pow 128 k * (top + 1) := by
        rw [Nat.div_lt_iff_lt_mul (by omega)]
        calc n < Nat.pow 128 k * 128 * (top + 1) := h
          _ = Nat.pow 128 k * (top + 1) * 128 := Nat.mul_right_comm _ _ _
      have hn' : n % 128 + 128 - 128 + 128 * (n / 128) = n := by omega
      rw [List.cons_append, readPlaces, if_neg (by omega), ih hq]
      simp only [hb, hn']

/-- **Reading back.** A written word reads back, whatever follows it. -/
theorem read_write {bits n : Nat} {rest : Bytes} (hbits : bits ∈ [16, 32, 64]) (h : n < Nat.pow 2 bits) :
    read bits (write n ++ rest) = .ok (n, rest) := by
  simp only [List.mem_cons, List.not_mem_nil, or_false] at hbits
  rcases hbits with rfl | rfl | rfl
  · exact @readPlaces_write 2 3 _ _ h (by omega)
  · exact @readPlaces_write 4 15 _ _ h (by omega)
  · exact @readPlaces_write 9 1 _ _ h (by omega)

theorem unzigzag_zigzag (i : Int) : unzigzag (zigzag i) = i := by
  unfold zigzag unzigzag
  split <;> split <;> omega

end Loopback.Varint
