/-
The names of environment variables.

A variable name is read off a property name in one pass that carries a single bit: whether the character before may end a
word. Here it is told without the pass: a property name falls into segments at its dots and hyphens, and what is written
for a character of a segment depends on that character and the one right before it.
- `wordStarts`, `spelled`: where words start inside a segment, and the segment with a low line at each of these places;
- `variableChars_append`: a separator becomes a low line, and what follows is read as if it stood alone;
- `variableChars_eq_flatten`: what is written for the rest of a segment, whatever stands before it;
- `variableChars_eq_intercalate`: a variable name is its spelled segments, with low lines between them;
- `variableName_segments`: the same for two parts around a separator, and for a name without separators.
-/
import Mathlib.Data.List.Basic
import Loopback.Properties

namespace Loopback.Properties

/-! ## Segments -/

/-- whether a character stands between segments -/
def isSeparator (c : Char) : Bool := c == '.' || c == '-'

/-- whether a word starts at a place inside a segment: a capital letter stands there, right behind a small letter or a
digit; only the letters of ASCII are small or capital -/
def wordStarts (cs : List Char) (place : Nat) : Bool :=
  (cs.take place).getLast?.any (fun c => c.isLower || c.isDigit) && cs[place]?.any Char.isUpper

/-- what is written for the character at a place of a segment -/
def spelledAt (cs : List Char) (place : Nat) (c : Char) : List Char :=
  if wordStarts cs place then ['_', c.toUpper] else [c.toUpper]

/-- a segment in upper case, with low lines where words start inside it -/
def spelled (cs : List Char) : List Char := (cs.mapIdx (spelledAt cs)).flatten

/-- a word starts at a place exactly if the character there is a capital letter right behind a small letter or a digit -/
theorem wordStarts_append (before : List Char) (c : Char) (after : List Char) :
    wordStarts (before ++ c :: after) before.length = (before.getLast?.any endsWord && c.isUpper) := by
  have there : (before ++ c :: after)[before.length]? = some c := by simp
  rw [wordStarts, List.take_left, there]
  rfl

/-! ## Steps -/

section Steps

variable {inWord : Bool} {c : Char} {r : List Char}

/-- a capital letter is in no run of characters that ends before the capital letters or starts after them -/
theorem not_between_of_isUpper {first last : Char} (h : c.isUpper = true)
    (hrun : last.val.toNat < 65 ∨ 90 < first.val.toNat) : ¬(first.val ≤ c.val ∧ c.val ≤ last.val) := by
  have capital : 'A'.val ≤ c.val ∧ c.val ≤ 'Z'.val := of_decide_eq_true h
  rw [UInt32.le_iff_toNat_le, UInt32.le_iff_toNat_le] at capital ⊢
  have bounds : 'A'.val.toNat = 65 ∧ 'Z'.val.toNat = 90 := ⟨rfl, rfl⟩
  omega

/-- a capital letter ends no word: it is no small letter and no digit -/
theorem endsWord_of_isUpper (h : c.isUpper = true) : endsWord c = false := by
  have small : c.isLower = false :=
    (Bool.decide_and _ _).symm.trans (decide_eq_false (not_between_of_isUpper h (.inr (by decide))))
  have digit : c.isDigit = false :=
    (Bool.decide_and _ _).symm.trans (decide_eq_false (not_between_of_isUpper h (.inl (by decide))))
  rw [endsWord, small, digit]
  rfl

/-- a capital letter stays as it is -/
theorem toUpper_of_isUpper (h : c.isUpper = true) : c.toUpper = c :=
  dif_neg (not_between_of_isUpper h (.inr (by decide)))

theorem variableChars_cons_separator (h : isSeparator c = true) :
    variableChars inWord (c :: r) = '_' :: variableChars false r := by
  rw [variableChars]
  exact if_pos h

/-- one step inside a segment; behind a capital letter no word has ended, so the bit is that of the character alone -/
theorem variableChars_cons (h : isSeparator c = false) :
    variableChars inWord (c :: r) =
      (if inWord && c.isUpper then ['_', c.toUpper] else [c.toUpper]) ++ variableChars (endsWord c) r := by
  have inside : ¬(c == '.' || c == '-') = true := by simpa [isSeparator] using h
  rw [variableChars, if_neg inside]
  cases hc : c.isUpper with
  | false => simp
  | true =>
    rw [toUpper_of_isUpper hc, endsWord_of_isUpper hc]
    cases inWord <;> rfl

end Steps

/-! ## Runs -/

/-- **Separators.** A separator becomes a low line, and what stands behind it is read as if it stood alone. -/
theorem variableChars_append (inWord : Bool) (a b : List Char) {d : Char} (hd : isSeparator d = true) :
    variableChars inWord (a ++ d :: b) = variableChars inWord a ++ '_' :: variableChars false b := by
  induction a generalizing inWord with
  | nil => exact variableChars_cons_separator hd
  | cons c a ih =>
    rw [List.cons_append]
    cases hc : isSeparator c with
    | true => rw [variableChars_cons_separator hc, variableChars_cons_separator hc, ih, List.cons_append]
    | false => rw [variableChars_cons hc, variableChars_cons hc, ih, List.append_assoc]

/-- **Places.** The rest of a segment is written character by character, each by its place in the whole segment: the bit
that the pass carries is that of the last character before the rest. -/
theorem variableChars_eq_flatten (before cs : List Char) (h : ∀ c ∈ cs, isSeparator c = false) :
    variableChars (before.getLast?.any endsWord) cs =
      (cs.mapIdx fun i => spelledAt (before ++ cs) (before.length + i)).flatten := by
  induction cs generalizing before with
  | nil => rfl
  | cons c r ih =>
    obtain ⟨hc, hr⟩ := List.forall_mem_cons.1 h
    have here : spelledAt (before ++ c :: r) before.length c =
        if before.getLast?.any endsWord && c.isUpper then ['_', c.toUpper] else [c.toUpper] := by
      rw [spelledAt, wordStarts_append]
    have places (i : Nat) : before.length + 1 + i = before.length + (i + 1) := by omega
    -- for what is left, the character that is read belongs to those before it
    have behind := ih (before ++ [c]) hr
    rw [List.getLast?_concat, Option.any_some, List.append_assoc, List.singleton_append, List.length_append,
      List.length_singleton] at behind
    calc
      variableChars (before.getLast?.any endsWord) (c :: r)
        = spelledAt (before ++ c :: r) before.length c ++ variableChars (endsWord c) r := by
          rw [variableChars_cons hc, here]
      _ = spelledAt (before ++ c :: r) before.length c ++
            (r.mapIdx fun i => spelledAt (before ++ c :: r) (before.length + (i + 1))).flatten := by
          simp only [behind, places]
      _ = ((c :: r).mapIdx fun i => spelledAt (before ++ c :: r) (before.length + i)).flatten := by
          simp [List.mapIdx_cons]

/-- **Segments.** A text without separators is spelled as one segment. -/
theorem variableChars_eq_spelled {cs : List Char} (h : ∀ c ∈ cs, isSeparator c = false) :
    variableChars false cs = spelled cs := by
  simpa [spelled] using variableChars_eq_flatten [] cs h

/-- a text has no separators, or falls into a segment and what stands behind its first separator -/
theorem separated_cases (cs : List Char) :
    (∀ c ∈ cs, isSeparator c = false) ∨
      ∃ a d b, cs = a ++ d :: b ∧ (∀ c ∈ a, isSeparator c = false) ∧ isSeparator d = true := by
  cases hd : cs.find? isSeparator with
  | none => exact .inl (by simpa using hd)
  | some d =>
    obtain ⟨hsep, a, b, rfl, ha⟩ := List.find?_eq_some_iff_append.1 hd
    exact .inr ⟨a, d, b, rfl, by simpa using ha, hsep⟩

/-- **Names.** The characters of a variable name are those of its spelled segments, with low lines between them. -/
theorem variableChars_eq_intercalate (cs : List Char) :
    variableChars false cs = ['_'].intercalate ((cs.splitOnP isSeparator).map spelled) := by
  induction hn : cs.length using Nat.strongRecOn generalizing cs with
  | ind n ih =>
    rcases separated_cases cs with h | ⟨a, d, b, rfl, ha, hd⟩
    · rw [List.splitOnP_eq_singleton h, List.map_singleton, List.intercalate_singleton, variableChars_eq_spelled h]
    · have shorter : b.length < n := by
        rw [← hn, List.length_append, List.length_cons]
        omega
      have rest := ih b.length shorter b rfl
      rw [variableChars_append false a b hd, rest, variableChars_eq_spelled ha,
        List.splitOnP_append_cons_of_forall_mem ha d hd b]
      obtain ⟨segment, segments, hs⟩ := List.exists_cons_of_ne_nil (List.splitOnP_ne_nil isSeparator b)
      rw [hs, List.map_cons, List.map_cons, List.map_cons, List.intercalate_cons_cons]
      simp

example : variableName "a.b2Cd-.ÀxY" = "A_B2_CD__ÀX_Y" := by decide

/-- **Variable names.** Two parts around a dot or a hyphen are named apart, with a low line between them. A name without
dots and hyphens is put into upper case, with a low line at each place where a capital letter stands right behind a small
letter or a digit, and at no other. -/
theorem variableName_segments :
    (∀ (a b : String) (d : Char), d = '.' ∨ d = '-' →
      variableName (a ++ String.singleton d ++ b) = variableName a ++ "_" ++ variableName b) ∧
    ∀ name : String, '.' ∉ name.toList → '-' ∉ name.toList →
      variableName name = String.ofList (spelled name.toList) := by
  constructor
  · intro a b d hd
    have separator : isSeparator d = true := by rcases hd with rfl | rfl <;> rfl
    have chars : (a ++ String.singleton d ++ b).toList = a.toList ++ d :: b.toList := by simp
    apply String.toList_inj.1
    rw [variableName, chars, variableChars_append false _ _ separator]
    simp [variableName]
  · intro name hdot hhyphen
    have inside : ∀ c ∈ name.toList, isSeparator c = false := by
      intro c hc
      rw [isSeparator, Bool.or_eq_false_iff, beq_eq_false_iff_ne, beq_eq_false_iff_ne]
      constructor
      · rintro rfl
        exact hdot hc
      · rintro rfl
        exact hhyphen hc
    rw [variableName, variableChars_eq_spelled inside]

/-- a name of two segments, and a segment with letters that are no letters of ASCII -/
theorem variableName_segments_connection :
    variableName ("localrpc" ++ String.singleton '.' ++ "connectionUrlList") = "LOCALRPC" ++ "_" ++ "CONNECTION_URL_LIST" ∧
      '.' ∉ "größeÄb2CdEF".toList ∧ '-' ∉ "größeÄb2CdEF".toList ∧ variableName "größeÄb2CdEF" = "GRößEÄB2_CD_EF" := by
  obtain ⟨parts, whole⟩ := variableName_segments
  have first : variableName "localrpc" = "LOCALRPC" := by decide
  have second : variableName "connectionUrlList" = "CONNECTION_URL_LIST" := by decide
  have dot : '.' ∉ "größeÄb2CdEF".toList := by decide
  have hyphen : '-' ∉ "größeÄb2CdEF".toList := by decide
  refine ⟨?_, dot, hyphen, ?_⟩
  · rw [parts _ _ '.' (.inl rfl), first, second]
  · rw [whole _ dot hyphen]
    decide

end Loopback.Properties
