/-
Blank characters and trimming.

`isBlank` is the property `White_Space` of the character database. `trim` removes blank characters from both ends.
- `trim_trim`: trimming twice is trimming once;
- `trim_eq_self_iff`: a text is its own trimming exactly when neither end is blank.
-/
namespace Loopback.Text

/-! ## Model -/

/-- whether a character is white space -/
def isBlank (c : Char) : Bool :=
  let n := c.toNat
  (0x9 ≤ n && n ≤ 0xd) || n == 0x20 || n == 0x85 || n == 0xa0 || n == 0x1680 || (0x2000 ≤ n && n ≤ 0x200a) ||
    n == 0x2028 || n == 0x2029 || n == 0x202f || n == 0x205f || n == 0x3000

/-- drop a run from the end of a list -/
def dropEndWhile {α : Type} (p : α → Bool) (l : List α) : List α :=
  (l.reverse.dropWhile p).reverse

/-- the characters between blank ends -/
def trimChars (l : List Char) : List Char :=
  dropEndWhile isBlank (l.dropWhile isBlank)

/-- the text between blank ends -/
def trim (s : String) : String :=
  String.ofList (trimChars s.toList)

/-! ## Lemmas -/

theorem dropWhile_eq_self_iff {α : Type} {p : α → Bool} {l : List α} :
    l.dropWhile p = l ↔ ∀ a ∈ l.head?, p a = false := by
  cases l with
  | nil => simp
  | cons a r =>
    by_cases h : p a
    · simp only [List.dropWhile_cons, h, if_true, List.head?_cons, Option.mem_def, Option.some.injEq]
      constructor
      · intro e
        have := congrArg List.length e
        have := (List.dropWhile_suffix p (l := r)).length_le
        simp at *
        omega
      · intro e
        simp [e a rfl] at h
    · simp [h]

theorem head?_dropWhile {α : Type} (p : α → Bool) (l : List α) :
    ∀ a ∈ (l.dropWhile p).head?, p a = false := by
  induction l with
  | nil => simp
  | cons a r ih =>
    by_cases h : p a
    · simpa [List.dropWhile_cons, h] using ih
    · simp [h]

theorem dropWhile_idem {α : Type} (p : α → Bool) (l : List α) :
    (l.dropWhile p).dropWhile p = l.dropWhile p :=
  dropWhile_eq_self_iff.2 (head?_dropWhile p l)

theorem dropEndWhile_idem {α : Type} (p : α → Bool) (l : List α) :
    dropEndWhile p (dropEndWhile p l) = dropEndWhile p l := by
  simp [dropEndWhile, dropWhile_idem]

theorem dropEndWhile_eq_self_iff {α : Type} {p : α → Bool} {l : List α} :
    dropEndWhile p l = l ↔ ∀ a ∈ l.getLast?, p a = false := by
  rw [← List.head?_reverse, ← dropWhile_eq_self_iff (l := l.reverse), dropEndWhile]
  constructor
  · intro h
    have := congrArg List.reverse h
    simpa using this
  · intro h
    rw [h, List.reverse_reverse]

theorem dropEndWhile_prefix {α : Type} (p : α → Bool) (l : List α) : dropEndWhile p l <+: l := by
  simpa [dropEndWhile] using List.reverse_prefix.2 (List.dropWhile_suffix p (l := l.reverse))

/-- dropping at the end keeps the head unless nothing is left -/
theorem head?_dropEndWhile {α : Type} {p : α → Bool} {l : List α} {a : α}
    (h : a ∈ (dropEndWhile p l).head?) : a ∈ l.head? := by
  obtain ⟨t, ht⟩ := dropEndWhile_prefix p l
  cases hd : dropEndWhile p l with
  | nil => simp [hd] at h
  | cons b r =>
    rw [hd] at h ht
    simp only [List.head?_cons, Option.mem_def, Option.some.injEq] at h
    simp [← ht, h]

theorem trimChars_eq_self_iff {l : List Char} :
    trimChars l = l ↔ (∀ c ∈ l.head?, isBlank c = false) ∧ ∀ c ∈ l.getLast?, isBlank c = false := by
  constructor
  · intro h
    have h2 : dropEndWhile isBlank l = l := by
      rw [← h, trimChars, dropEndWhile_idem]
    have h1 : l.dropWhile isBlank = l := by
      have hs := List.dropWhile_suffix isBlank (l := l)
      have hp := dropEndWhile_prefix isBlank (l.dropWhile isBlank)
      rw [← trimChars, h] at hp
      exact hs.eq_of_length (Nat.le_antisymm hs.length_le hp.length_le)
    exact ⟨dropWhile_eq_self_iff.1 h1, dropEndWhile_eq_self_iff.1 h2⟩
  · rintro ⟨h1, h2⟩
    rw [trimChars, dropWhile_eq_self_iff.2 h1, dropEndWhile_eq_self_iff.2 h2]

theorem trimChars_idem (l : List Char) : trimChars (trimChars l) = trimChars l := by
  have hh : ∀ c ∈ (trimChars l).head?, isBlank c = false := fun c hc =>
    head?_dropWhile isBlank l c (head?_dropEndWhile hc)
  have hd : (trimChars l).dropWhile isBlank = trimChars l := dropWhile_eq_self_iff.2 hh
  rw [trimChars, hd, trimChars, dropEndWhile_idem]

/-! ## Main results -/

theorem trim_trim (s : String) : trim (trim s) = trim s := by
  simp [trim, trimChars_idem]

theorem trim_eq_self_iff {s : String} :
    trim s = s ↔ (∀ c ∈ s.toList.head?, isBlank c = false) ∧ ∀ c ∈ s.toList.getLast?, isBlank c = false := by
  rw [← trimChars_eq_self_iff, trim]
  constructor
  · intro h
    simpa using congrArg String.toList h
  · intro h
    rw [h, String.ofList_toList]

end Loopback.Text
