/-
The canonical form of a service name.

A service is known by its path: blocks, dispatchers and running blocks all put a name into its canonical form before they
use it. Which paths are canonical, and which name has which path, is told here without the function that finds it.
- `rooted_eq_rooted_iff`: putting a slash in front takes two texts to one only if one is the other behind a slash;
- `IsCanonical`: a path starts with a slash, goes on behind it, and has no blanks around it;
- `normalize?_eq_some_iff`: the canonical path of a name is the trimmed name, or the trimmed name behind a slash;
- `normalize?_eq_self_iff`: a path is its own canonical form exactly if it is canonical;
- `normalize_canonical`: which names are refused, what becomes of the others, and which of them name one service.
-/
import Loopback.Proofs.EntryName

namespace Loopback

/-- a slash in front of a trimmed text leaves it trimmed -/
theorem Text.trim_slash_append {s : String} (h : trim s = s) : trim ("/" ++ s) = "/" ++ s := by
  obtain ⟨-, last⟩ := trim_eq_self_iff.1 h
  have slash : isBlank '/' = false := by decide
  rw [trim_eq_self_iff, String.toList_append]
  constructor
  · intro c hc
    obtain rfl : '/' = c := by simpa using hc
    exact slash
  · intro c hc
    rw [List.getLast?_append] at hc
    cases hs : s.toList.getLast? with
    | none =>
      obtain rfl : '/' = c := by simpa [hs] using hc
      exact slash
    | some d =>
      obtain rfl : d = c := by simpa [hs] using hc
      exact last d hs

namespace ServiceName

open Text

variable {a b name path : String}

/-! ## Slashes in front -/

/-- a text starts with a slash -/
def IsRooted (s : String) : Prop := s.toList.head? = some '/'

instance (s : String) : Decidable (IsRooted s) := by
  unfold IsRooted
  infer_instance

theorem rooted_of_isRooted (h : IsRooted a) : rooted a = a := if_pos h

theorem rooted_of_not_isRooted (h : ¬IsRooted a) : rooted a = "/" ++ a := if_neg h

theorem isRooted_slash_append (a : String) : IsRooted ("/" ++ a) := by
  unfold IsRooted
  simp

theorem slash_append_inj : "/" ++ a = "/" ++ b ↔ a = b := by
  rw [← String.toList_inj, ← String.toList_inj]
  simp

/-- **Rooting.** Two texts become one with a slash in front exactly if they are the same, or one of them is the other
behind a slash that the other one lacks. -/
theorem rooted_eq_rooted_iff :
    rooted a = rooted b ↔ a = b ∨ (¬IsRooted a ∧ b = "/" ++ a) ∨ (¬IsRooted b ∧ a = "/" ++ b) := by
  by_cases ha : IsRooted a <;> by_cases hb : IsRooted b
  · rw [rooted_of_isRooted ha, rooted_of_isRooted hb]
    simp [ha, hb]
  · have apart : a ≠ b := by
      rintro rfl
      exact hb ha
    rw [rooted_of_isRooted ha, rooted_of_not_isRooted hb]
    simp [ha, hb, apart]
  · have apart : a ≠ b := by
      rintro rfl
      exact ha hb
    rw [rooted_of_not_isRooted ha, rooted_of_isRooted hb]
    simp [ha, hb, apart, eq_comm]
  · -- neither of them can be the other behind a slash
    have left : b ≠ "/" ++ a := by
      rintro rfl
      exact hb (isRooted_slash_append a)
    have right : a ≠ "/" ++ b := by
      rintro rfl
      exact ha (isRooted_slash_append b)
    rw [rooted_of_not_isRooted ha, rooted_of_not_isRooted hb, slash_append_inj]
    simp [left, right]

/-! ## Canonical paths -/

/-- a path is one that names come down to -/
structure IsCanonical (path : String) : Prop where
  rooted : IsRooted path
  /-- a lone slash names nothing -/
  goesOn : 1 < path.length
  trimmed : trim path = path

theorem IsCanonical.ne_empty (h : IsCanonical path) : path ≠ "" := by
  rintro rfl
  exact absurd h.goesOn (by decide)

theorem IsCanonical.ne_slash (h : IsCanonical path) : path ≠ "/" := by
  rintro rfl
  exact absurd h.goesOn (by decide)

/-- a rooted text is canonical if it is trimmed and no lone slash -/
theorem isCanonical_of_isRooted (h : IsRooted a) (hne : a ≠ "/") (htrim : trim a = a) : IsCanonical a := by
  refine ⟨h, ?_, htrim⟩
  obtain ⟨r, hr⟩ := List.head?_eq_some_iff.1 h
  cases r with
  | nil => exact absurd (String.toList_inj.1 hr) hne
  | cons c r =>
    rw [← String.length_toList, hr]
    simp

/-- behind a slash any other trimmed text is canonical -/
theorem isCanonical_slash_append (hne : a ≠ "") (htrim : trim a = a) : IsCanonical ("/" ++ a) := by
  refine isCanonical_of_isRooted (isRooted_slash_append a) ?_ (trim_slash_append htrim)
  intro h
  exact hne (slash_append_inj.1 h)

/-! ## Normalization -/

theorem normalize?_eq_none_iff : normalize? name = none ↔ trim name = "" ∨ trim name = "/" := by
  unfold normalize?
  dsimp only
  split <;> simp [*]

theorem normalize?_of_named (h : ¬(trim name = "" ∨ trim name = "/")) : normalize? name = some (rooted (trim name)) :=
  if_neg h

theorem named_of_normalize? (h : normalize? name = some path) : ¬(trim name = "" ∨ trim name = "/") := by
  intro unnamed
  cases (normalize?_eq_none_iff.2 unnamed).symm.trans h

theorem eq_rooted_of_normalize? (h : normalize? name = some path) : path = rooted (trim name) := by
  rw [normalize?_of_named (named_of_normalize? h)] at h
  exact (Option.some.inj h).symm

/-- **Canonical forms.** The canonical form of a name is canonical, and is the trimmed name, behind a slash if that has
none in front. -/
theorem normalize?_eq_some_iff :
    normalize? name = some path ↔
      IsCanonical path ∧ (path = trim name ∨ ¬IsRooted (trim name) ∧ path = "/" ++ trim name) := by
  constructor
  · intro h
    obtain ⟨hempty, hslash⟩ := not_or.1 (named_of_normalize? h)
    rw [eq_rooted_of_normalize? h]
    by_cases hr : IsRooted (trim name)
    · rw [rooted_of_isRooted hr]
      exact ⟨isCanonical_of_isRooted hr hslash (trim_trim name), .inl rfl⟩
    · rw [rooted_of_not_isRooted hr]
      exact ⟨isCanonical_slash_append hempty (trim_trim name), .inr ⟨hr, rfl⟩⟩
  · rintro ⟨canonical, rfl | ⟨hr, rfl⟩⟩
    · have named : ¬(trim name = "" ∨ trim name = "/") := not_or.2 ⟨canonical.ne_empty, canonical.ne_slash⟩
      rw [normalize?_of_named named, rooted_of_isRooted canonical.rooted]
    · have named : ¬(trim name = "" ∨ trim name = "/") := by
        rintro (hempty | hslash)
        · -- behind the slash stands nothing
          rw [hempty] at canonical
          exact canonical.ne_slash rfl
        · rw [hslash] at hr
          exact hr rfl
      rw [normalize?_of_named named, rooted_of_not_isRooted hr]

/-- **Fixed points.** A path is its own canonical form exactly if it is canonical. -/
theorem normalize?_eq_self_iff : normalize? path = some path ↔ IsCanonical path := by
  rw [normalize?_eq_some_iff]
  constructor
  · intro h
    exact h.1
  · intro canonical
    exact ⟨canonical, .inl canonical.trimmed.symm⟩

theorem normalize_eq_ok_iff : normalize name = .ok path ↔ normalize? name = some path := by
  unfold normalize
  cases normalize? name <;> simp

theorem normalize_eq_error_iff {e : InvocationError} :
    normalize name = .error e ↔ e = unset ∧ normalize? name = none := by
  unfold normalize
  cases normalize? name <;> simp [eq_comm]

/-- **Service names.** A name is refused, as one that is not set, exactly if it is nothing or a lone slash between the
blanks at its ends. Any other name becomes a canonical path, which is its own canonical form. Two such names become the
same path exactly if they are the same between their blanks, or one is the other behind a slash that the other lacks. -/
theorem normalize_canonical :
    (∀ name e, normalize name = .error e ↔ e = unset ∧ (trim name = "" ∨ trim name = "/")) ∧
    (∀ name path, normalize name = .ok path → IsCanonical path ∧ normalize path = .ok path) ∧
    ∀ a b path path', normalize a = .ok path → normalize b = .ok path' →
      (path = path' ↔ trim a = trim b ∨ (¬IsRooted (trim a) ∧ trim b = "/" ++ trim a) ∨
        (¬IsRooted (trim b) ∧ trim a = "/" ++ trim b)) := by
  refine ⟨?_, ?_, ?_⟩
  · intro name e
    rw [normalize_eq_error_iff, normalize?_eq_none_iff]
  · intro name path h
    have canonical : IsCanonical path := (normalize?_eq_some_iff.1 (normalize_eq_ok_iff.1 h)).1
    exact ⟨canonical, normalize_eq_ok_iff.2 (normalize?_eq_self_iff.2 canonical)⟩
  · intro a b path path' ha hb
    rw [eq_rooted_of_normalize? (normalize_eq_ok_iff.1 ha), eq_rooted_of_normalize? (normalize_eq_ok_iff.1 hb),
      rooted_eq_rooted_iff]

/-- a name between blanks, the same name behind a slash, and behind two -/
theorem normalize_canonical_versioned :
    normalize "\u3000v1//calc\t" = .ok "/v1//calc" ∧ normalize "/v1//calc" = .ok "/v1//calc" ∧
      IsCanonical "/v1//calc" ∧ trim "/v1//calc" = "/" ++ trim "\u3000v1//calc\t" ∧
      normalize "//v1//calc" = .ok "//v1//calc" ∧ trim "//v1//calc" ≠ "/" ++ trim "\u3000v1//calc\t" ∧
      normalize "\u2003/\n" = .error unset := by
  obtain ⟨refused, accepted, same⟩ := normalize_canonical
  have unrooted : normalize "\u3000v1//calc\t" = .ok "/v1//calc" := normalize_eq_ok_iff.2 (by decide)
  have doubled : normalize "//v1//calc" = .ok "//v1//calc" := normalize_eq_ok_iff.2 (by decide)
  obtain ⟨canonical, fixed⟩ := accepted _ _ unrooted
  have shared := (same _ _ _ _ unrooted fixed).1 rfl
  have apart := mt (same _ _ _ _ unrooted doubled).2 (by decide)
  refine ⟨unrooted, fixed, canonical, ?_, doubled, ?_, (refused _ _).2 ⟨rfl, by decide⟩⟩
  · rcases shared with h | ⟨-, h⟩ | ⟨h, -⟩
    · exact absurd h (by decide)
    · exact h
    · exact absurd h (by decide)
  · intro h
    exact apart (.inr (.inl ⟨by decide, h⟩))

end ServiceName

end Loopback
