/-
Scanning what was laid out.

A scanner is followed step by step on the bytes that are left: blanks, words, texts with their escapes, numbers. Each
lemma says what one scanner makes of the bytes that the layout puts there, whatever comes after them.
- `textRest_text`: the form of a text between quotes gives the text;
- `numeral_digitBytes`: the digits of a number of 64 bits give the number.
-/
import Mathlib.Data.List.Basic
import Loopback.Json.Reader
import Loopback.Proofs.Frame
import Loopback.Proofs.Json.Tree

namespace Loopback.Json

open Scanner

variable {α β : Type}

/-! ## Steps -/

namespace Scanner

variable {s : Scanner α} {bs r : Bytes} {a : α}

theorem map_of_ok {k : α → β} (h : s bs = (.ok a, r)) : (do return k (← s)) bs = (.ok (k a), r) := bind_of_ok h

theorem located_of_ok (h : s bs = (.ok a, r)) : located s bs = (.ok a, r) := by
  unfold located
  simp only [tryCatch, tryCatchThe, MonadExceptOf.tryCatch, ExceptT.tryCatch, ExceptT.mk, bind, StateT.bind, h]
  rfl

theorem andThen_of_ok {closing : Scanner Unit} {r' : Bytes} (h : s bs = (.ok a, r)) (hc : closing r = (.ok (), r')) :
    andThen s closing bs = (.ok a, r') := by
  unfold andThen
  rw [h]
  dsimp only
  rw [hc]

theorem peek_cons (b : UInt8) (r : Bytes) : peek (b :: r) = (.ok (some b), b :: r) := rfl

theorem eat_cons (b : UInt8) (r : Bytes) : eat (b :: r) = (.ok (), r) := rfl

theorem rest_eq (bs : Bytes) : rest bs = (.ok bs, bs) := rfl

end Scanner

/-! ## Blanks and words -/

/-- blank bytes -/
def Blanks (w : Bytes) : Prop := ∀ b ∈ w, isBlank b = true

theorem blanks_nil : Blanks [] := nofun

/-- a scanner that looks for the next byte that is not blank skips blanks -/
theorem peekToken_blanks {w : Bytes} (hw : Blanks w) (bs : Bytes) : peekToken (w ++ bs) = peekToken bs := by
  show ((Except.ok ((w ++ bs).dropWhile isBlank).head?, _) : Except Fault _ × Bytes) = (.ok _, _)
  rw [List.dropWhile_append_of_pos hw]

theorem peekToken_cons {b : UInt8} (hb : isBlank b = false) (r : Bytes) :
    peekToken (b :: r) = (.ok (some b), b :: r) := by
  have kept : (b :: r).dropWhile isBlank = b :: r := List.dropWhile_cons_of_neg (by rw [hb]; decide)
  show ((Except.ok ((b :: r).dropWhile isBlank).head?, _) : Except Fault _ × Bytes) = _
  rw [kept]
  rfl

/-- the next byte that is not blank -/
theorem peekToken_next {w : Bytes} (hw : Blanks w) {b : UInt8} (hb : isBlank b = false) (r : Bytes) :
    peekToken (w ++ b :: r) = (.ok (some b), b :: r) := (peekToken_blanks hw _).trans (peekToken_cons hb r)

theorem expectRest_append (word r : Bytes) : expectRest word (word ++ r) = (.ok (), r) := by
  induction word with
  | nil => rfl
  | cons b word ih =>
    unfold expectRest
    rw [List.cons_append, bind_of_ok (peek_cons b _)]
    dsimp only
    rw [bind_of_ok (eat_cons b _), if_pos (beq_self_eq_true b)]
    exact ih

/-! ## Texts -/

theorem utf8_append (s s' : String) : Text.utf8 (s ++ s') = Text.utf8 s ++ Text.utf8 s' := by
  simp [Text.utf8]

theorem utf8_ofList (l : List Char) : Text.utf8 (String.ofList l) = l.flatMap String.utf8EncodeChar := by
  simp [Text.utf8, List.utf8Encode]

theorem utf8_eq (s : String) : Text.utf8 s = s.toList.flatMap String.utf8EncodeChar := by
  rw [← utf8_ofList, String.ofList_toList]

/-- the bytes up to a closing quote are those of a text, and `r` is left; the rounds are more than the bytes -/
def TextUpTo (bs out r : Bytes) : Prop := ∀ fuel, bs.length < fuel → textBytes fuel bs = (.ok out, r)

namespace TextUpTo

variable {bs out r : Bytes}

theorem quote (r : Bytes) : TextUpTo (0x22 :: r) [] r := by
  intro fuel hf
  cases fuel with
  | zero => cases hf
  | succ fuel => rfl

theorem plain {b : UInt8} (hquote : b ≠ 0x22) (hslash : b ≠ 0x5c) (hcontrol : ¬b < 0x20) (h : TextUpTo bs out r) :
    TextUpTo (b :: bs) (b :: out) r := by
  intro fuel hf
  cases fuel with
  | zero => cases hf
  | succ fuel =>
    unfold textBytes
    rw [bind_of_ok (Scanner.peek_cons b bs)]
    dsimp only
    rw [bind_of_ok (Scanner.eat_cons b bs), if_neg (by simpa using hquote), if_neg (by simpa using hslash),
      if_neg hcontrol]
    exact Scanner.map_of_ok (h fuel (Nat.lt_of_succ_lt_succ hf))

theorem plain_append {l : Bytes} (hl : ∀ b ∈ l, b ≠ 0x22 ∧ b ≠ 0x5c ∧ ¬b < 0x20) (h : TextUpTo bs out r) :
    TextUpTo (l ++ bs) (l ++ out) r := by
  induction l with
  | nil => exact h
  | cons b l ih =>
    obtain ⟨hquote, hslash, hcontrol⟩ := hl b List.mem_cons_self
    exact .plain hquote hslash hcontrol (ih fun c hc => hl c (List.mem_cons_of_mem _ hc))

theorem escape {e c : Bytes} (he : escaped (e ++ bs) = (.ok c, bs)) (h : TextUpTo bs out r) :
    TextUpTo (0x5c :: (e ++ bs)) (c ++ out) r := by
  intro fuel hf
  cases fuel with
  | zero => cases hf
  | succ fuel =>
    have rounds : bs.length < fuel := by
      rw [List.length_cons, List.length_append] at hf
      omega
    unfold textBytes
    rw [bind_of_ok (Scanner.peek_cons _ _)]
    dsimp only
    rw [bind_of_ok (Scanner.eat_cons _ _), if_neg (by decide), if_pos (by decide), bind_of_ok he]
    exact Scanner.map_of_ok (h fuel rounds)

end TextUpTo

/-- a byte after a backslash that stands for a character -/
theorem escaped_simple {b c : UInt8} (h : simpleEscape b = some c) (bs : Bytes) :
    escaped (b :: bs) = (.ok [c], bs) := by
  unfold escaped
  rw [bind_of_ok (Scanner.peek_cons b bs)]
  dsimp only
  rw [bind_of_ok (Scanner.eat_cons b bs), h]
  rfl

theorem hexValue_hexDigit : ∀ n < 16, String.utf8EncodeChar (Text.hexDigit n) = [UInt8.ofNat (Text.hexDigit n).toNat] ∧
    hexValue (UInt8.ofNat (Text.hexDigit n).toNat) = some n := by
  decide

theorem hexEscape_cons {a b c d : UInt8} {i j k l : Nat} (ha : hexValue a = some i) (hb : hexValue b = some j)
    (hc : hexValue c = some k) (hd : hexValue d = some l) (r : Bytes) :
    hexEscape (a :: b :: c :: d :: r) = (.ok (((i * 16 + j) * 16 + k) * 16 + l), r) := by
  unfold hexEscape
  have left : Scanner.rest (a :: b :: c :: d :: r) = (.ok (a :: b :: c :: d :: r), a :: b :: c :: d :: r) := rfl
  have dropped : (set r : Scanner Unit) (a :: b :: c :: d :: r) = (.ok (), r) := rfl
  rw [bind_of_ok left]
  dsimp only
  rw [bind_of_ok dropped, ha, hb, hc, hd]
  rfl

theorem utf8_control : ∀ n < 0x20, Text.utf8 (Char.ofNat n).toString = [UInt8.ofNat n] := by
  decide

theorem unicodeEscape_control {n : Nat} (hn : n < 0x20) {bs r : Bytes} (h : hexEscape bs = (.ok n, r)) :
    unicodeEscape bs = (.ok [UInt8.ofNat n], r) := by
  unfold unicodeEscape
  rw [bind_of_ok h]
  have high : ((0xdc00 ≤ n : Bool) && (n ≤ 0xdfff : Bool)) = false := by
    rw [Bool.and_eq_false_iff]
    exact .inl (decide_eq_false (by omega))
  have low : ((n < 0xd800 : Bool) || (0xdbff < n : Bool)) = true := by
    rw [Bool.or_eq_true]
    exact .inl (decide_eq_true (by omega))
  rw [high, low, utf8_control n hn]
  rfl

/-- two hexadecimal digits after two zeros are the number of a control character -/
theorem escaped_control {n : Nat} (hn : n < 0x20) (bs : Bytes) :
    escaped ((['u', '0', '0', Text.hexDigit (n / 16), Text.hexDigit (n % 16)].flatMap String.utf8EncodeChar) ++ bs) =
      (.ok [UInt8.ofNat n], bs) := by
  obtain ⟨hi, hiv⟩ := hexValue_hexDigit (n / 16) (by omega)
  obtain ⟨lo, lov⟩ := hexValue_hexDigit (n % 16) (by omega)
  have form : (['u', '0', '0', Text.hexDigit (n / 16), Text.hexDigit (n % 16)].flatMap String.utf8EncodeChar) ++ bs =
      0x75 :: 0x30 :: 0x30 :: UInt8.ofNat (Text.hexDigit (n / 16)).toNat ::
        UInt8.ofNat (Text.hexDigit (n % 16)).toNat :: bs := by
    simp only [List.flatMap_cons, List.flatMap_nil, hi, lo]
    rfl
  have number : hexEscape (0x30 :: 0x30 :: UInt8.ofNat (Text.hexDigit (n / 16)).toNat ::
      UInt8.ofNat (Text.hexDigit (n % 16)).toNat :: bs) = (.ok n, bs) := by
    rw [hexEscape_cons (i := 0) (j := 0) (by decide) (by decide) hiv lov]
    have value : ((0 * 16 + 0) * 16 + n / 16) * 16 + n % 16 = n := by omega
    rw [value]
  unfold escaped
  rw [form, bind_of_ok (Scanner.peek_cons _ _)]
  dsimp only
  rw [bind_of_ok (Scanner.eat_cons _ _)]
  exact unicodeEscape_control hn number

/-- a byte of a character is its number, or its top bit is set -/
theorem toNat_of_mem_utf8EncodeChar {c : Char} {b : UInt8} (hb : b ∈ String.utf8EncodeChar c) :
    b.toNat = c.toNat ∨ 128 ≤ b.toNat := by
  have number : c.val.toNat = c.toNat := rfl
  unfold String.utf8EncodeChar at hb
  rw [number] at hb
  dsimp only at hb
  split at hb
  · rw [List.mem_singleton.1 hb]
    left
    simp
    omega
  · right
    split at hb
    · simp only [List.mem_cons, List.not_mem_nil, or_false] at hb
      rcases hb with rfl | rfl <;> simp <;> omega
    · split at hb
      · simp only [List.mem_cons, List.not_mem_nil, or_false] at hb
        rcases hb with rfl | rfl | rfl <;> simp <;> omega
      · simp only [List.mem_cons, List.not_mem_nil, or_false] at hb
        rcases hb with rfl | rfl | rfl | rfl <;> simp <;> omega

/-- the bytes of a character that is not escaped end no text and start no escape -/
theorem plain_of_mem_utf8EncodeChar {c : Char} (hquote : c ≠ '"') (hslash : c ≠ '\\') (hcontrol : ¬c.toNat < 0x20)
    {b : UInt8} (hb : b ∈ String.utf8EncodeChar c) : b ≠ 0x22 ∧ b ≠ 0x5c ∧ ¬b < 0x20 := by
  have quote : c.toNat ≠ 0x22 := fun h => hquote (Char.toNat_inj.1 h)
  have slash : c.toNat ≠ 0x5c := fun h => hslash (Char.toNat_inj.1 h)
  have number := toNat_of_mem_utf8EncodeChar hb
  refine ⟨?_, ?_, ?_⟩
  · rintro rfl
    have : (0x22 : UInt8).toNat = 0x22 := rfl
    omega
  · rintro rfl
    have : (0x5c : UInt8).toNat = 0x5c := rfl
    omega
  · rw [UInt8.lt_iff_toNat_lt]
    have : (0x20 : UInt8).toNat = 0x20 := rfl
    omega

/-- the form of a character, in front of what goes on -/
theorem TextUpTo.char (c : Char) {bs out r : Bytes} (h : TextUpTo bs out r) :
    TextUpTo ((Json.escape c).flatMap String.utf8EncodeChar ++ bs) (String.utf8EncodeChar c ++ out) r := by
  have simple {b v : UInt8} (hb : simpleEscape b = some v) : TextUpTo (0x5c :: b :: bs) (v :: out) r :=
    h.escape (e := [b]) (c := [v]) (escaped_simple hb bs)
  unfold Json.escape
  split
  · next hc =>
    rw [Bool.or_eq_true, beq_iff_eq, beq_iff_eq] at hc
    rcases hc with rfl | rfl
    · exact simple rfl
    · exact simple rfl
  · next hc =>
    rw [Bool.or_eq_true, beq_iff_eq, beq_iff_eq, not_or] at hc
    split
    · next hb =>
      rw [beq_iff_eq.1 hb]
      exact simple rfl
    split
    · next hf =>
      rw [beq_iff_eq.1 hf]
      exact simple rfl
    split
    · next hn =>
      rw [beq_iff_eq.1 hn]
      exact simple rfl
    split
    · next hr =>
      rw [beq_iff_eq.1 hr]
      exact simple rfl
    split
    · next ht =>
      rw [beq_iff_eq.1 ht]
      exact simple rfl
    split
    · next hlow =>
      have own : String.utf8EncodeChar c = [UInt8.ofNat c.toNat] := by
        have byte := utf8_control c.toNat hlow
        rw [Char.ofNat_toNat, utf8_eq] at byte
        simpa using byte
      have slash : String.utf8EncodeChar '\\' = [0x5c] := by decide
      rw [List.flatMap_cons, slash, own, List.append_assoc, List.singleton_append]
      exact h.escape (escaped_control hlow bs)
    · next hlow =>
      rw [List.flatMap_singleton]
      exact h.plain_append fun b hb => plain_of_mem_utf8EncodeChar hc.1 hc.2 hlow hb

theorem TextUpTo.chars (l : List Char) (r : Bytes) :
    TextUpTo ((l.flatMap Json.escape).flatMap String.utf8EncodeChar ++ 0x22 :: r) (l.flatMap String.utf8EncodeChar) r := by
  induction l with
  | nil => exact .quote r
  | cons c l ih =>
    rw [List.flatMap_cons, List.flatMap_append, List.flatMap_cons, List.append_assoc]
    exact .char c ih

/-- **Texts.** The form of a text, after its opening quote, gives the text. -/
theorem textRest_text (s : String) (r : Bytes) :
    textRest ((s.toList.flatMap Json.escape).flatMap String.utf8EncodeChar ++ 0x22 :: r) = (.ok s, r) := by
  unfold textRest
  rw [bind_of_ok (rest_eq _), bind_of_ok (TextUpTo.chars s.toList r _ (Nat.lt_succ_self _)), ← utf8_eq, Text.ofUtf8?_utf8]
  rfl

/-- the bytes of a text between quotes -/
theorem utf8_text (s : String) :
    Text.utf8 (text s) = 0x22 :: ((s.toList.flatMap Json.escape).flatMap String.utf8EncodeChar ++ [0x22]) := by
  have quote : String.utf8EncodeChar '"' = [0x22] := by decide
  unfold text
  rw [utf8_ofList, List.flatMap_append, List.flatMap_cons, List.flatMap_singleton, quote]
  rfl

/-! ## Numbers -/

/-- what follows does not go on with a number -/
def Ends (r : Bytes) : Prop := ∀ b ∈ r.head?, isDigit b = false ∧ b ≠ 0x2e ∧ b ≠ 0x65 ∧ b ≠ 0x45

/-- the bytes of the digits of a number -/
def digitBytes (n : Nat) : Bytes := (Nat.toDigits 10 n).flatMap String.utf8EncodeChar

theorem utf8_repr (n : Nat) : Text.utf8 n.repr = digitBytes n := by
  rw [Nat.repr_eq_ofList_toDigits, utf8_ofList]
  rfl

section Digits

variable {c : Char}

theorem utf8EncodeChar_digit (h : c.isDigit = true) : String.utf8EncodeChar c = [UInt8.ofNat c.toNat] := by
  have small : c.toNat ≤ 0x39 := by
    rw [Char.isDigit_iff_toNat] at h
    exact h.2
  have number : c.val.toNat = c.toNat := rfl
  unfold String.utf8EncodeChar
  rw [number]
  dsimp only
  rw [if_pos (by omega)]

/-- the byte of a digit -/
theorem digit_byte (h : c.isDigit = true) : isDigit (UInt8.ofNat c.toNat) = true ∧
    digitValue (UInt8.ofNat c.toNat) = c.toNat - '0'.toNat := by
  rw [Char.isDigit_iff_toNat] at h
  obtain ⟨hl, hu⟩ : 0x30 ≤ c.toNat ∧ c.toNat ≤ 0x39 := h
  have byte : (UInt8.ofNat c.toNat).toNat = c.toNat := by
    simp
    omega
  constructor
  · unfold isDigit
    rw [Bool.and_eq_true, decide_eq_true_eq, decide_eq_true_eq, UInt8.le_iff_toNat_le, UInt8.le_iff_toNat_le, byte]
    exact ⟨hl, hu⟩
  · unfold digitValue
    rw [byte]
    rfl

theorem digitBytes_eq (n : Nat) : digitBytes n = (Nat.toDigits 10 n).map fun c => UInt8.ofNat c.toNat := by
  unfold digitBytes
  rw [List.map_eq_flatMap]
  exact List.flatMap_congr fun c hc => utf8EncodeChar_digit (Nat.isDigit_of_mem_toDigits (by decide) (by decide) hc)

theorem isDigit_of_mem_digitBytes {n : Nat} {b : UInt8} (hb : b ∈ digitBytes n) : isDigit b = true := by
  rw [digitBytes_eq] at hb
  obtain ⟨c, hc, rfl⟩ := List.mem_map.1 hb
  exact (digit_byte (Nat.isDigit_of_mem_toDigits (by decide) (by decide) hc)).1

/-- the digits of a number make up the number -/
theorem foldl_digitBytes (n : Nat) : ((digitBytes n).map digitValue).foldl (fun m d => m * 10 + d) 0 = n := by
  have digits : (digitBytes n).map digitValue = (Nat.toDigits 10 n).map fun c => c.toNat - '0'.toNat := by
    rw [digitBytes_eq, List.map_map]
    refine List.map_congr_left fun c hc => ?_
    exact (digit_byte (Nat.isDigit_of_mem_toDigits (by decide) (by decide) hc)).2
  calc ((digitBytes n).map digitValue).foldl (fun m d => m * 10 + d) 0
      = (Nat.toDigits 10 n).foldl (fun m c => 10 * m + (c.toNat - '0'.toNat)) 0 := by
        rw [digits, List.foldl_map]
        simp only [Nat.mul_comm]
    _ = Nat.ofDigitChars 10 (Nat.toDigits 10 n) 0 := Nat.ofDigitChars_eq_foldl.symm
    _ = n := Nat.ofDigitChars_toDigits (by decide) (by decide)

/-- a number but zero starts with a digit but zero -/
theorem toDigits_eq_cons {n : Nat} (hn : 0 < n) : ∃ c l, Nat.toDigits 10 n = c :: l ∧ c ≠ '0' := by
  induction n using Nat.strongRecOn with
  | ind n ih =>
    by_cases h : n < 10
    · have single : ∀ n < 10, 0 < n → n.digitChar ≠ '0' := by decide
      exact ⟨n.digitChar, [], Nat.toDigits_of_lt_base h, single n h hn⟩
    · obtain ⟨c, l, hl, hc⟩ := ih (n / 10) (by omega) (by omega)
      refine ⟨c, l ++ [(n % 10).digitChar], ?_, hc⟩
      rw [Nat.toDigits_of_base_le (by decide) (by omega), hl]
      rfl

theorem digitBytes_eq_cons {n : Nat} (hn : 0 < n) : ∃ b l, digitBytes n = b :: l ∧ b ≠ 0x30 := by
  obtain ⟨c, l, hl, hc⟩ := toDigits_eq_cons hn
  refine ⟨UInt8.ofNat c.toNat, l.map fun c => UInt8.ofNat c.toNat, ?_, ?_⟩
  · rw [digitBytes_eq, hl, List.map_cons]
  · intro zero
    have digit : c.isDigit = true :=
      Nat.isDigit_of_mem_toDigits (b := 10) (n := n) (by decide) (by decide) (by rw [hl]; exact List.mem_cons_self)
    rw [Char.isDigit_iff_toNat] at digit
    obtain ⟨hl, hu⟩ : 0x30 ≤ c.toNat ∧ c.toNat ≤ 0x39 := digit
    have byte : (UInt8.ofNat c.toNat).toNat = 0x30 := by
      rw [zero]
      rfl
    have number : c.toNat = 0x30 := by
      simp at byte
      omega
    exact hc (Char.toNat_inj.1 number)

end Digits

/-- digits are all taken while what they make up fits -/
theorem accumulate_eq {m : Nat} {l : List Nat} (h : l.foldl (fun m d => m * 10 + d) m ≤ maxSignificand) :
    accumulate m l = (l.foldl (fun m d => m * 10 + d) m, l.length, 0) := by
  induction l generalizing m with
  | nil => rfl
  | cons d l ih =>
    have grows : ∀ (l : List Nat) (m : Nat), m ≤ l.foldl (fun m d => m * 10 + d) m := by
      intro l
      induction l with
      | nil => exact fun m => Nat.le_refl m
      | cons d l ih => exact fun m => Nat.le_trans (by omega) (ih (m * 10 + d))
    have fits : ¬maxSignificand < m * 10 + d := Nat.not_lt.2 (Nat.le_trans (grows l _) h)
    rw [accumulate, if_neg fits, ih h]
    rfl

theorem digits_digitBytes (n : Nat) {r : Bytes} (hr : Ends r) :
    digits (digitBytes n ++ r) = (.ok ((digitBytes n).map digitValue), r) := by
  have stop : r.takeWhile isDigit = [] ∧ r.dropWhile isDigit = r := by
    cases r with
    | nil => exact ⟨rfl, rfl⟩
    | cons b r =>
      have hb : ¬isDigit b = true := by
        rw [(hr b rfl).1]
        decide
      exact ⟨List.takeWhile_cons_of_neg hb, List.dropWhile_cons_of_neg hb⟩
  show ((Except.ok (((digitBytes n ++ r).takeWhile isDigit).map digitValue), _) : Except Fault _ × Bytes) = _
  rw [List.takeWhile_append_of_pos fun b hb => isDigit_of_mem_digitBytes hb, stop.1, List.append_nil,
    List.dropWhile_append_of_pos fun b hb => isDigit_of_mem_digitBytes hb, stop.2]

/-- without a point or an exponent the digits are all there is -/
theorem numeralRest_ends (positive : Bool) (n : Nat) {r : Bytes} (hr : Ends r) :
    numeralRest positive n 0 r = (if positive then return Numeral.natural n
      else if n = 0 ∨ Nat.pow 2 63 < n then return Numeral.float (-n.toUInt64.toFloat)
      else return Numeral.negative (-n) : Scanner Numeral) r := by
  have next : Scanner.peek r = (.ok r.head?, r) := rfl
  unfold numeralRest
  rw [bind_of_ok next]
  apply congrFun
  cases h : r.head? with
  | none => rfl
  | some b =>
    obtain ⟨-, point, small, big⟩ := hr b h
    split
    · next h' => exact absurd (Option.some.inj h') point
    · next h' => exact absurd (Option.some.inj h') small
    · next h' => exact absurd (Option.some.inj h') big
    · rfl

/-- a number that starts with a digit but zero -/
theorem numeral_cons (positive : Bool) {b : UInt8} (hb : b ≠ 0x30) (digit : isDigit b = true) (r : Bytes) :
    numeral positive (b :: r) = (do
      let ds ← digits
      let (n, _, spare) := accumulate 0 ds
      numeralRest positive n spare) (b :: r) := by
  unfold numeral
  rw [bind_of_ok (Scanner.peek_cons b r)]
  apply congrFun
  split
  · next h => cases h
  · next h => exact absurd (Option.some.inj h) hb
  · next h =>
    cases h
    rw [if_pos digit]

/-- a zero -/
theorem numeral_zero (positive : Bool) {r : Bytes} (hr : Ends r) :
    numeral positive (0x30 :: r) = numeralRest positive 0 0 r := by
  have next : Scanner.peek r = (.ok r.head?, r) := rfl
  unfold numeral
  rw [bind_of_ok (Scanner.peek_cons 0x30 r)]
  show (Scanner.eat >>= _) _ = _
  rw [bind_of_ok (Scanner.eat_cons 0x30 r), bind_of_ok next]
  cases h : r.head? with
  | none => rfl
  | some b =>
    dsimp only
    rw [(hr b h).1]
    rfl

/-- **Numbers.** The digits of a number of at most 64 bits give the number. -/
theorem numeral_digitBytes (positive : Bool) {n : Nat} (hn : n < Nat.pow 2 64) {r : Bytes} (hr : Ends r) :
    numeral positive (digitBytes n ++ r) = numeralRest positive n 0 r := by
  by_cases zero : n = 0
  · subst zero
    exact numeral_zero positive hr
  · obtain ⟨b, l, hl, hb⟩ := digitBytes_eq_cons (Nat.pos_of_ne_zero zero)
    have digit : isDigit b = true := by
      apply isDigit_of_mem_digitBytes (n := n)
      rw [hl]
      exact List.mem_cons_self
    have value : accumulate 0 ((digitBytes n).map digitValue) = (n, (digitBytes n).length, 0) := by
      have fits : ((digitBytes n).map digitValue).foldl (fun m d => m * 10 + d) 0 ≤ maxSignificand := by
        rw [foldl_digitBytes]
        exact Nat.le_pred_of_lt hn
      rw [accumulate_eq fits, foldl_digitBytes, List.length_map]
    have start : digitBytes n ++ r = b :: (l ++ r) := by rw [hl, List.cons_append]
    rw [start, numeral_cons positive hb digit, ← start, bind_of_ok (digits_digitBytes n hr), value]

end Loopback.Json
