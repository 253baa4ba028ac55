/-
Readers and the documents they read.

A reader `Reads` a document as a value if, in any layout, after any blanks and before anything that does not go on with
a number, it gives that value and leaves what follows. A floating-point number is never read in this sense: its text need
not give it back.
- `utf8_block`: a layout as bytes, items between delimiters with blanks and commas;
- `exists_first`: the first byte of a document tells its form;
- `takeNatural_reads`, `takeInteger_reads`, `takeText_reads`, `takeOption_reads_some`: single values.
-/
import Loopback.Proofs.Json.Scanning

namespace Loopback.Json

open Scanner

variable {α β : Type}

/-! ## Layouts as bytes -/

/-- items one after the other, with a comma before each but the first of all, each after a break -/
def sequence (lb : Bytes) : (first : Bool) → List Bytes → Bytes
  | _, [] => []
  | first, i :: r => (if first then [] else [0x2c]) ++ (lb ++ (i ++ sequence lb false r))

theorem blanks_lineBreak (ly : Layout) (d : Nat) : Blanks (Text.utf8 (ly.lineBreak d)) := by
  cases ly with
  | compact =>
    have none_there : Text.utf8 (Layout.compact.lineBreak d) = [] := rfl
    rw [none_there]
    exact blanks_nil
  | pretty =>
    intro b hb
    rw [Layout.lineBreak, utf8_append, utf8_ofList (List.replicate (2 * d) ' '), List.mem_append, List.mem_flatMap] at hb
    rcases hb with hb | ⟨c, hc, hb⟩
    · have line : Text.utf8 "\n" = [0x0a] := by decide
      rw [line, List.mem_singleton] at hb
      rw [hb]
      rfl
    · have blank : String.utf8EncodeChar ' ' = [0x20] := by decide
      rw [List.eq_of_mem_replicate hc, blank, List.mem_singleton] at hb
      rw [hb]
      rfl

theorem utf8_intercalate (lb : String) (s : String) (l : List String) :
    Text.utf8 (",".intercalate ((s :: l).map (lb ++ ·))) = sequence (Text.utf8 lb) true ((s :: l).map Text.utf8) := by
  induction l generalizing s with
  | nil =>
    rw [List.map_singleton, String.intercalate_singleton, utf8_append]
    simp [sequence]
  | cons s' l ih =>
    have comma : Text.utf8 "," = [0x2c] := by decide
    rw [List.map_cons, List.map_cons, String.intercalate_cons_cons, ← List.map_cons (f := (lb ++ ·)), utf8_append,
      utf8_append, utf8_append, ih, comma]
    simp [sequence]

/-- an object is a block of its members, each with its key -/
theorem Layout.object_eq (ly : Layout) (d : Nat) (members : List (String × String)) :
    ly.object d members = ly.block d "\x7b" "\x7d" (members.map fun m => text m.1 ++ ly.colon ++ m.2) := rfl

/-- the bytes of items between delimiters -/
theorem utf8_block (ly : Layout) (d : Nat) (opening closing : String) (items : List String) :
    ∃ gap, Blanks gap ∧ Text.utf8 (ly.block d opening closing items) = Text.utf8 opening ++
      (sequence (Text.utf8 (ly.lineBreak (d + 1))) true (items.map Text.utf8) ++ (gap ++ Text.utf8 closing)) := by
  cases items with
  | nil =>
    refine ⟨[], blanks_nil, ?_⟩
    rw [Layout.block, utf8_append]
    rfl
  | cons s l =>
    refine ⟨Text.utf8 (ly.lineBreak d), blanks_lineBreak ly d, ?_⟩
    rw [Layout.block, utf8_append, utf8_append, utf8_append, utf8_intercalate]
    · simp only [List.append_assoc]
    · exact nofun

/-- the colon of a layout and what follows it -/
theorem utf8_colon (ly : Layout) : ∃ gap, Blanks gap ∧ Text.utf8 ly.colon = 0x3a :: gap := by
  cases ly with
  | compact => exact ⟨[], blanks_nil, by decide⟩
  | pretty =>
    refine ⟨[0x20], ?_, by decide⟩
    intro b hb
    rw [List.mem_singleton.1 hb]
    rfl

/-! ## Reading -/

/-- a document that is no floating-point number -/
def Tree.Exact : Tree → Prop
  | decimal _ => False
  | _ => True

/-- the reader gives the value for the document in any layout, after any blanks, and leaves what follows -/
structure Reads (s : Scanner α) (t : Tree) (a : α) : Prop where
  exact : t.Exact
  scans : ∀ (ly : Layout) (d : Nat) (w r : Bytes), Blanks w → Ends r →
    s (w ++ (Text.utf8 (t.render ly d) ++ r)) = (.ok a, r)

theorem Reads.bind {s : Scanner α} {t : Tree} {a : α} {b : β} {k : α → Scanner β} (h : Reads s t a)
    (hk : ∀ r, k a r = (.ok b, r)) : Reads (s >>= k) t b where
  exact := h.exact
  scans ly d w r hw hr := by
    rw [bind_of_ok (h.scans ly d w r hw hr)]
    exact hk r

theorem Reads.map {s : Scanner α} {t : Tree} {a : α} {b : β} {k : α → β} (h : Reads s t a) (hk : k a = b) :
    Reads (do return k (← s)) t b := h.bind fun _ => hk ▸ rfl

/-- blanks do not go on with a number -/
theorem ends_blanks {w : Bytes} (hw : Blanks w) : Ends w := by
  intro b hb
  have blank := hw b (List.mem_of_mem_head? hb)
  unfold isBlank at blank
  simp only [Bool.or_eq_true, beq_iff_eq] at blank
  rcases blank with ((rfl | rfl) | rfl) | rfl <;> decide

/-- what follows a value inside delimiters -/
theorem ends_gap {gap r : Bytes} {c : UInt8} (hg : Blanks gap) (hc : c ∈ [0x2c, 0x5d, 0x7d]) : Ends (gap ++ c :: r) := by
  intro b hb
  cases gap with
  | nil =>
    cases hb
    simp only [List.mem_cons, List.not_mem_nil, or_false] at hc
    rcases hc with rfl | rfl | rfl <;> decide
  | cons g gap => exact ends_blanks hg b hb

/-- a digit is no blank, no delimiter and no letter -/
theorem of_isDigit {b : UInt8} (h : isDigit b = true) :
    isBlank b = false ∧ b ≠ 0x5d ∧ b ≠ 0x6e ∧ b ≠ 0x2d := by
  unfold isDigit at h
  rw [Bool.and_eq_true, decide_eq_true_eq, decide_eq_true_eq, UInt8.le_iff_toNat_le, UInt8.le_iff_toNat_le] at h
  obtain ⟨hl, hu⟩ : 0x30 ≤ b.toNat ∧ b.toNat ≤ 0x39 := h
  have other (c : UInt8) (hc : c.toNat < 0x30 ∨ 0x39 < c.toNat) : b ≠ c := by
    rintro rfl
    omega
  refine ⟨?_, other 0x5d (by decide), other 0x6e (by decide), other 0x2d (by decide)⟩
  unfold isBlank
  simp only [Bool.or_eq_false_iff, beq_eq_false_iff_ne]
  exact ⟨⟨⟨other 0x20 (by decide), other 0x0a (by decide)⟩, other 0x09 (by decide)⟩, other 0x0d (by decide)⟩

/-- a number has a first digit -/
theorem exists_first_digit (n : Nat) : ∃ b l, digitBytes n = b :: l ∧ isDigit b = true := by
  cases h : digitBytes n with
  | nil =>
    have some_digit : Nat.toDigits 10 n ≠ [] := Nat.toDigits_ne_nil
    rw [digitBytes_eq] at h
    exact absurd (List.map_eq_nil_iff.1 h) some_digit
  | cons b l =>
    refine ⟨b, l, rfl, isDigit_of_mem_digitBytes (n := n) ?_⟩
    rw [h]
    exact List.mem_cons_self

theorem utf8_integer (i : Int) :
    Text.utf8 (integer i) = if 0 ≤ i then digitBytes i.natAbs else 0x2d :: digitBytes i.natAbs := by
  cases i with
  | ofNat n => exact utf8_repr n
  | negSucc n =>
    have minus : Text.utf8 "-" = [0x2d] := by decide
    have form : integer (.negSucc n) = "-" ++ (n + 1).repr := rfl
    rw [form, utf8_append, minus, utf8_repr]
    rfl

theorem utf8_words : Text.utf8 "null" = [0x6e, 0x75, 0x6c, 0x6c] ∧ Text.utf8 "true" = [0x74, 0x72, 0x75, 0x65] ∧
    Text.utf8 "false" = [0x66, 0x61, 0x6c, 0x73, 0x65] := by
  decide

/-- the first byte of a document that is no floating-point number; an `n` only starts `null` -/
theorem exists_first {t : Tree} (h : t.Exact) (ly : Layout) (d : Nat) :
    ∃ b l, Text.utf8 (t.render ly d) = b :: l ∧ isBlank b = false ∧ b ≠ 0x5d ∧ (t ≠ .null → b ≠ 0x6e) := by
  have delimited (opening closing : String) (c : UInt8) (hc : Text.utf8 opening = [c]) (items : List String) :
      ∃ l, Text.utf8 (ly.block d opening closing items) = c :: l := by
    obtain ⟨gap, -, hbytes⟩ := utf8_block ly d opening closing items
    rw [hbytes, hc]
    exact ⟨_, rfl⟩
  cases t with
  | null => exact ⟨0x6e, _, utf8_words.1, by decide, by decide, fun h => absurd rfl h⟩
  | flag b =>
    cases b with
    | false => exact ⟨0x66, _, utf8_words.2.2, by decide, by decide, fun _ => by decide⟩
    | true => exact ⟨0x74, _, utf8_words.2.1, by decide, by decide, fun _ => by decide⟩
  | integer i =>
    rw [Tree.render, utf8_integer]
    split
    · obtain ⟨b, l, hl, digit⟩ := exists_first_digit i.natAbs
      obtain ⟨hblank, hend, hn, -⟩ := of_isDigit digit
      exact ⟨b, l, hl, hblank, hend, fun _ => hn⟩
    · exact ⟨0x2d, _, rfl, by decide, by decide, fun _ => by decide⟩
  | decimal s => exact absurd h id
  | text s =>
    rw [Tree.render, utf8_text]
    exact ⟨0x22, _, rfl, by decide, by decide, fun _ => by decide⟩
  | array items =>
    obtain ⟨l, hl⟩ := delimited "[" "]" 0x5b (by decide) (Tree.renderItems ly (d + 1) items)
    exact ⟨0x5b, l, hl, by decide, by decide, fun _ => by decide⟩
  | object members =>
    obtain ⟨l, hl⟩ := delimited "\x7b" "\x7d" 0x7b (by decide)
      ((Tree.renderMembers ly (d + 1) members).map fun m => text m.1 ++ ly.colon ++ m.2)
    exact ⟨0x7b, l, hl, by decide, by decide, fun _ => by decide⟩

/-! ## Single values -/

theorem firstByte_cons {w : Bytes} (hw : Blanks w) {b : UInt8} (hb : isBlank b = false) (r : Bytes) :
    firstByte (w ++ b :: r) = (.ok b, b :: r) := by
  have next : peekToken (w ++ b :: r) = (.ok (some b), b :: r) := peekToken_next hw hb r
  unfold firstByte
  rw [bind_of_ok next]
  rfl

section Numbers

variable {expected : String} {visit : Numeral → Scanner α} {a : α}

theorem takeNumber_nonnegative {n : Nat} (hn : n < Nat.pow 2 64) (hv : ∀ r, visit (.natural n) r = (.ok a, r)) :
    Reads (takeNumber expected visit) (.integer n) a where
  exact := trivial
  scans ly d w r hw hr := by
    obtain ⟨b, l, hl, digit⟩ := exists_first_digit n
    obtain ⟨hblank, -, -, hminus⟩ := of_isDigit digit
    have number : numeral true (digitBytes n ++ r) = (.ok (.natural n), r) := by
      rw [numeral_digitBytes true hn hr, numeralRest_ends true n hr]
      rfl
    have bytes : Text.utf8 ((Tree.integer n).render ly d) = digitBytes n := by
      rw [Tree.render, utf8_integer, if_pos (Int.natCast_nonneg n)]
      rfl
    rw [bytes]
    rw [hl, List.cons_append] at number ⊢
    unfold takeNumber
    rw [bind_of_ok (firstByte_cons hw hblank _), if_neg (by simpa using hminus), if_pos digit]
    apply located_of_ok
    rw [bind_of_ok number]
    exact hv r

theorem takeNumber_negative {n : Nat} (hpos : 0 < n) (hn : n ≤ Nat.pow 2 63)
    (hv : ∀ r, visit (.negative (-n)) r = (.ok a, r)) : Reads (takeNumber expected visit) (.integer (-n)) a where
  exact := trivial
  scans ly d w r hw hr := by
    have number : numeral false (digitBytes n ++ r) = (.ok (.negative (-n)), r) := by
      rw [numeral_digitBytes false (Nat.lt_of_le_of_lt hn (by decide)) hr, numeralRest_ends false n hr,
        if_neg Bool.false_ne_true, if_neg (by omega)]
      rfl
    have bytes : Text.utf8 ((Tree.integer (-n)).render ly d) = 0x2d :: digitBytes n := by
      rw [Tree.render, utf8_integer, if_neg (by omega), Int.natAbs_neg]
      rfl
    rw [bytes, List.cons_append]
    unfold takeNumber
    rw [bind_of_ok (firstByte_cons hw (by decide) _), if_pos (by decide)]
    apply located_of_ok
    rw [bind_of_ok (eat_cons _ _), bind_of_ok number]
    exact hv r

end Numbers

/-- a number in its range is read -/
theorem takeNatural_reads {expected : String} {bits n : Nat} (hbits : bits ≤ 64) (hn : n < Nat.pow 2 bits) :
    Reads (takeNatural expected bits) (.integer n) n := by
  refine takeNumber_nonnegative (Nat.lt_of_lt_of_le hn (Nat.pow_le_pow_right (by decide) hbits)) fun r => ?_
  dsimp only
  rw [if_pos hn]
  rfl

/-- a signed number in its range is read -/
theorem takeInteger_reads {expected : String} {bits : Nat} {i : Int} (hbits : bits ≤ 64)
    (hl : -(Nat.pow 2 (bits - 1) : Int) ≤ i) (hu : i < Nat.pow 2 (bits - 1)) :
    Reads (takeInteger expected bits) (.integer i) i := by
  have half : Nat.pow 2 (bits - 1) ≤ Nat.pow 2 63 := Nat.pow_le_pow_right (by decide) (by omega)
  rcases Int.lt_or_le i 0 with negative | nonnegative
  · obtain ⟨n, rfl⟩ : ∃ n : Nat, i = -n := ⟨i.natAbs, by omega⟩
    refine takeNumber_negative (by omega) (by omega) fun r => ?_
    dsimp only
    rw [if_pos hl]
    rfl
  · obtain ⟨n, rfl⟩ := Int.eq_ofNat_of_zero_le nonnegative
    have small : n < Nat.pow 2 (bits - 1) := by omega
    have wide : n < Nat.pow 2 64 := Nat.lt_of_lt_of_le small (Nat.le_trans half (by decide))
    refine takeNumber_nonnegative wide fun r => ?_
    dsimp only
    rw [if_pos small]
    rfl

theorem takeBool_reads (b : Bool) : Reads takeBool (.flag b) b where
  exact := trivial
  scans ly d w r hw hr := by
    unfold takeBool
    cases b with
    | false =>
      rw [Tree.render, if_neg Bool.false_ne_true, utf8_words.2.2, List.cons_append,
        bind_of_ok (firstByte_cons hw (by decide) _)]
      show (eat >>= _) _ = _
      rw [bind_of_ok (eat_cons _ _), bind_of_ok (expectRest_append _ r)]
      rfl
    | true =>
      rw [Tree.render, if_pos rfl, utf8_words.2.1, List.cons_append, bind_of_ok (firstByte_cons hw (by decide) _)]
      show (eat >>= _) _ = _
      rw [bind_of_ok (eat_cons _ _), bind_of_ok (expectRest_append _ r)]
      rfl

theorem takeUnit_reads : Reads takeUnit .null () where
  exact := trivial
  scans ly d w r hw hr := by
    unfold takeUnit
    rw [Tree.render, utf8_words.1, List.cons_append, bind_of_ok (firstByte_cons hw (by decide) _)]
    show (eat >>= _) _ = _
    rw [bind_of_ok (eat_cons _ _)]
    exact expectRest_append _ r

/-- a text is read where its content is taken -/
theorem takeTextAs_scans {expected : String} {visit : String → Scanner α} {s : String} {a : α}
    (hv : ∀ r, visit s r = (.ok a, r)) {w : Bytes} (hw : Blanks w) (r : Bytes) :
    takeTextAs expected visit (w ++ (Text.utf8 (text s) ++ r)) = (.ok a, r) := by
  unfold takeTextAs
  rw [utf8_text, List.cons_append, List.append_assoc, List.singleton_append,
    bind_of_ok (firstByte_cons hw (by decide) _)]
  show located _ _ = _
  apply located_of_ok
  rw [bind_of_ok (eat_cons _ _), bind_of_ok (textRest_text s r)]
  exact hv r

theorem takeText_reads (s : String) : Reads takeText (.text s) s where
  exact := trivial
  scans _ _ _ r hw _ := takeTextAs_scans (fun _ => rfl) hw r

theorem takeChar_reads (c : Char) : Reads takeChar (.text c.toString) c where
  exact := trivial
  scans _ _ _ r hw _ := by
    refine takeTextAs_scans (fun r => ?_) hw r
    rw [Char.toString, String.toList_singleton]
    rfl

theorem takeOption_reads_none (s : Scanner α) : Reads (takeOption s) .null none where
  exact := trivial
  scans ly d w r hw hr := by
    have next : peekToken (w ++ 0x6e :: ([0x75, 0x6c, 0x6c] ++ r)) = (.ok (some 0x6e), 0x6e :: ([0x75, 0x6c, 0x6c] ++ r)) :=
      peekToken_next hw (by decide) _
    unfold takeOption
    rw [Tree.render, utf8_words.1, List.cons_append, bind_of_ok next]
    show (eat >>= _) _ = _
    rw [bind_of_ok (eat_cons _ _), bind_of_ok (expectRest_append _ r)]
    rfl

/-- what is present is read, unless it is `null` -/
theorem takeOption_reads_some {s : Scanner α} {t : Tree} {a : α} (h : Reads s t a) (ht : t ≠ .null) :
    Reads (takeOption s) t (some a) where
  exact := h.exact
  scans ly d w r hw hr := by
    obtain ⟨b, l, hl, hblank, -, hn⟩ := exists_first h.exact ly d
    have next : peekToken (w ++ b :: (l ++ r)) = (.ok (some b), b :: (l ++ r)) :=
      peekToken_next hw hblank _
    have value : s (b :: (l ++ r)) = (.ok a, r) := by
      have scans := h.scans ly d [] r blanks_nil hr
      rw [hl] at scans
      exact scans
    unfold takeOption
    rw [hl, List.cons_append, bind_of_ok next]
    refine (congrFun (g := (do return some (← s) : Scanner _)) ?_ _).trans (map_of_ok value)
    split
    · next h => exact absurd (Option.some.inj h) (hn ht)
    · rfl

end Loopback.Json
