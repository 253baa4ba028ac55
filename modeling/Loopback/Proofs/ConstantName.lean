/-
The constant that is named after a trait.

The constant of a service is the upper case of the trait's name with underscores and a suffix. Upper-casing may turn one
character into several, so that the result is an identifier again rests on the tables of the character database: of
every character that may stand in an identifier the upper case is the character itself or spells an identifier.
- `toUpper_eq_or_isIdentifier`: that fact, read off the tables run by run;
- `isIdentifier_upperSnake`: the upper case of an identifier is one;
- `ServiceDef.descriptorName?_of_isPlain`: every service whose trait has a plain name has its constant.
-/
import Loopback.Declaration.Descriptor

namespace Loopback.Text

/-- whether characters spell an identifier -/
def isIdentifier (cs : List Char) : Bool :=
  cs.head?.any isIdentifierStart && cs.all isIdentifierRest

/-! ## Characters of identifiers -/

theorem isIdentifierStart_eq : isIdentifierStart = fun c =>
    if c.toNat < 0x80 then c.isAlpha || c == '_'
    else identifierStart.toList.any fun r => r.1 ≤ c.toNat && c.toNat ≤ r.2 := by
  funext c
  rw [isIdentifierStart, inRanges, ← Array.any_toList]

theorem isIdentifierRest_eq : isIdentifierRest = fun c =>
    if c.toNat < 0x80 then c.isAlphanum || c == '_'
    else (identifierStart.toList.any fun r => r.1 ≤ c.toNat && c.toNat ≤ r.2) ||
      identifierRest.toList.any fun r => r.1 ≤ c.toNat && c.toNat ≤ r.2 := by
  funext c
  rw [isIdentifierRest, inRanges, inRanges, ← Array.any_toList, ← Array.any_toList]

theorem isIdentifierRest_of_start {c : Char} (h : isIdentifierStart c = true) : isIdentifierRest c = true := by
  simp only [isIdentifierStart] at h
  simp only [isIdentifierRest]
  split at h
  · next hc =>
    simp only [hc, if_true, Char.isAlphanum, Bool.or_eq_true] at h ⊢
    exact h.imp .inl id
  · next hc => simp only [hc, if_false, h, Bool.true_or]

/-- no range of the table reaches into ASCII or into the surrogates -/
theorem identifierStart_scalar :
    ∀ r ∈ identifierStart.toList, 0x80 ≤ r.1 ∧ (r.2 < 0xd800 ∨ 0xdfff < r.1 ∧ r.2 < 0x110000) := by
  decide +kernel

theorem isIdentifierStart_ofNat {n : Nat} {r : Nat × Nat} (hr : r ∈ identifierStart.toList) (lo : r.1 ≤ n)
    (hi : n ≤ r.2) : isIdentifierStart (Char.ofNat n) = true := by
  obtain ⟨above, scalar⟩ := identifierStart_scalar r hr
  have valid : n.isValidChar := by unfold Nat.isValidChar; omega
  have code : (Char.ofNat n).toNat = n := by
    rw [Char.ofNat, dif_pos valid]
    rfl
  simp only [isIdentifierStart_eq, code, if_neg (show ¬n < 0x80 by omega)]
  exact List.any_eq_true.mpr ⟨r, hr, by simp [lo, hi]⟩

/-! ## Upper case -/

/-- of an ASCII character the upper case is itself or a letter -/
theorem ascii_toUpper :
    ∀ n < 0x80, (Char.ofNat n).toUpper = Char.ofNat n ∨ isIdentifierStart (Char.ofNat n).toUpper = true := by
  decide +kernel

/-- whether the upper case of every character of a run opens an identifier, or no identifier has a character between the
ends of the run -/
def isSoundRun (first last step upper : Nat) : Bool :=
  identifierStart.toList.any (fun r => r.1 ≤ upper && upper + (last - first) ≤ r.2) ||
    (List.range ((last - first) / step + 1)).all (fun k => isIdentifierStart (Char.ofNat (upper + k * step))) ||
    (identifierStart.toList ++ identifierRest.toList).all fun r => last < r.1 || r.2 < first

theorem upperMap_sound : ∀ r ∈ upperMap.toList, isSoundRun r.1 r.2.1 r.2.2.1 r.2.2.2 = true := by
  simp only [isSoundRun, isIdentifierStart_eq]
  decide +kernel

theorem upperExpansions_sound : ∀ e ∈ upperExpansions.toList, isIdentifier (e.2.map Char.ofNat) = true := by
  simp only [isIdentifier, isIdentifierStart_eq, isIdentifierRest_eq]
  decide +kernel

/-- in a sound run the upper case of every character that may stand in an identifier opens one -/
theorem isIdentifierStart_of_run {first last step upper n : Nat} (sound : isSoundRun first last step upper = true)
    (held : inRun first last step n = true)
    (inside : ∃ r ∈ identifierStart.toList ++ identifierRest.toList, r.1 ≤ n ∧ n ≤ r.2) :
    isIdentifierStart (Char.ofNat (upper + (n - first))) = true := by
  simp only [inRun, Bool.and_eq_true, decide_eq_true_eq, beq_iff_eq] at held
  obtain ⟨⟨lo, hi⟩, mod⟩ := held
  simp only [isSoundRun, Bool.or_eq_true] at sound
  rcases sound with (whole | each) | apart
  · obtain ⟨r, hr, hb⟩ := List.any_eq_true.mp whole
    simp only [Bool.and_eq_true, decide_eq_true_eq] at hb
    exact isIdentifierStart_ofNat hr (by omega) (by omega)
  · have steps : (n - first) / step * step = n - first := Nat.div_mul_cancel (Nat.dvd_of_mod_eq_zero mod)
    have below : (n - first) / step ∈ List.range ((last - first) / step + 1) :=
      List.mem_range.mpr (Nat.lt_succ_of_le (Nat.div_le_div_right (by omega)))
    have start := List.all_eq_true.mp each _ below
    rwa [steps] at start
  · obtain ⟨r, hr, le, ge⟩ := inside
    have := List.all_eq_true.mp apart r hr
    simp only [Bool.or_eq_true, decide_eq_true_eq] at this
    omega

/-- the upper case of a character of identifiers is that character or spells an identifier -/
theorem toUpper_eq_or_isIdentifier {c : Char} (h : isIdentifierRest c = true) :
    toUpper c = [c] ∨ isIdentifier (toUpper c) = true := by
  have single {d : Char} (hd : isIdentifierStart d = true) : isIdentifier [d] = true := by
    simp [isIdentifier, hd, isIdentifierRest_of_start hd]
  unfold toUpper
  split
  · next ascii =>
    have upper := ascii_toUpper c.toNat ascii
    rw [Char.ofNat_toNat] at upper
    exact upper.imp (congrArg ([·])) single
  · next above =>
    have inside : ∃ r ∈ identifierStart.toList ++ identifierRest.toList, r.1 ≤ c.toNat ∧ c.toNat ≤ r.2 := by
      simp only [isIdentifierRest_eq, if_neg above, ← List.any_append] at h
      simpa using List.any_eq_true.mp h
    split
    · next first last step upper found =>
      have mem := Array.mem_of_find?_eq_some found
      have held := Array.find?_some found
      exact .inr (single (isIdentifierStart_of_run (upperMap_sound _ mem.val) held inside))
    · split
      · next n upper found => exact .inr (upperExpansions_sound _ (Array.mem_of_find?_eq_some found).val)
      · exact .inl rfl

theorem all_toUpper {c : Char} (h : isIdentifierRest c = true) : (toUpper c).all isIdentifierRest = true := by
  rcases toUpper_eq_or_isIdentifier h with same | spelled
  · simp [same, h]
  · exact (Bool.and_eq_true_iff.mp spelled).2

theorem isIdentifier_toUpper {c : Char} (h : isIdentifierStart c = true) : isIdentifier (toUpper c) = true := by
  have rest := isIdentifierRest_of_start h
  rcases toUpper_eq_or_isIdentifier rest with same | spelled
  · simp [same, isIdentifier, h, rest]
  · exact spelled

end Loopback.Text

namespace Loopback.Declaration

open Text

/-! ## Names -/

/-- whether an identifier is written as its name, which spells it -/
def Ident.IsPlain (i : Ident) : Prop :=
  Ident.ofText? i.name = some i

theorem Ident.ofText?_eq (s : String) :
    Ident.ofText? s = if isIdentifier s.toList = true then some (.plain s) else none := by
  unfold Ident.ofText? isIdentifier
  cases s.toList with
  | nil => rfl
  | cons c r =>
    cases hc : isIdentifierStart c
    · simp [hc]
    · simp [hc, isIdentifierRest_of_start hc]

theorem all_upperSnakeAfter (small : Bool) {cs : List Char} (h : cs.all isIdentifierRest = true) :
    (upperSnakeAfter small cs).all isIdentifierRest = true := by
  induction cs generalizing small with
  | nil => rfl
  | cons c r ih =>
    simp only [List.all_cons, Bool.and_eq_true] at h
    have underscore : isIdentifierRest '_' = true := by decide
    simp only [upperSnakeAfter, List.all_append, all_toUpper h.1, ih _ h.2, Bool.and_true]
    split <;> simp [underscore]

theorem isIdentifier_upperSnake {cs tail : List Char} (h : isIdentifier cs = true)
    (ht : tail.all isIdentifierRest = true) : isIdentifier (upperSnakeAfter false cs ++ tail) = true := by
  cases cs with
  | nil => cases h
  | cons c r =>
    simp only [isIdentifier, List.head?_cons, Option.any_some, Bool.and_eq_true] at h
    have rest := all_upperSnakeAfter (isLower c || c.isDigit) (Bool.and_eq_true_iff.mp h.2).2
    -- nothing stands in front of the first character's upper case, whose own first character opens the name
    have upper := isIdentifier_toUpper h.1
    cases hu : toUpper c with
    | nil => rw [hu] at upper; cases upper
    | cons d ds =>
      simp only [hu, isIdentifier, List.head?_cons, Option.any_some, Bool.and_eq_true, List.all_cons] at upper
      simp [upperSnakeAfter, hu, isIdentifier, upper, rest, ht]

example : upperSnake "StraßenKasse2Go" = "STRASSEN_KASSE2_GO" := by decide +kernel

/-- every service whose trait has a plain name has its constant -/
theorem ServiceDef.descriptorName?_of_isPlain {s : ServiceDef} (h : s.name.IsPlain) :
    ∃ constant, s.descriptorName? = some constant := by
  unfold Ident.IsPlain at h
  rw [Ident.ofText?_eq] at h
  split at h
  · next spelled =>
    have plain : s.name.text = s.name.name := by rw [← Option.some.inj h]; rfl
    have suffix : "_INTERFACE".toList.all isIdentifierRest = true := by decide
    refine ⟨.plain (upperSnake s.name.text ++ "_INTERFACE"), ?_⟩
    rw [descriptorName?, Ident.ofText?_eq, if_pos]
    simpa [upperSnake, plain] using isIdentifier_upperSnake spelled suffix
  · cases h

end Loopback.Declaration
