/-
What a directory and statuses are made of.

A directory is made of batches of entries, one for each owner; statuses tell which names are recorded as started, and
under which context names. Both are stated for lists, so that those who own the batches and the names may be anything.
- `Directory.MadeOf.insertAll`, `Directory.MadeOf.eraseAll`: a new batch without a conflict joins the others, and a batch
  that is removed takes nothing of the others with it;
- `Statuses.Tells.start`, `Statuses.Tells.fail`, `Statuses.Tells.stop`: the same for the names that are started.
-/
import Mathlib.Data.List.Basic
import Loopback.Proofs.Publication

namespace Loopback

variable {ι : Type}

/-! ## Entries -/

/-- the directory holds the entries of some batches and nothing else, and no name is an entry twice -/
structure Directory.MadeOf (d : Directory ι) (batches : List (List (String × ι))) : Prop where
  disjoint : (batches.flatMap (·.map (·.1))).Nodup
  get? : ∀ e i, d.get? e = some i ↔ ∃ es ∈ batches, (e, i) ∈ es

namespace Directory.MadeOf

variable {d : Directory ι} {batches : List (List (String × ι))} {es : List (String × ι)}

theorem empty : Directory.MadeOf (.empty : Directory ι) [] where
  disjoint := List.nodup_nil
  get? e i := by simp

/-- the order of the batches does not matter -/
theorem perm {batches' : List (List (String × ι))} (h : d.MadeOf batches) (hp : batches.Perm batches') :
    d.MadeOf batches' where
  disjoint := (hp.flatMap_right _).nodup_iff.1 h.disjoint
  get? e i := by
    rw [h.get?]
    exact exists_congr fun es => and_congr_left fun _ => hp.mem_iff

theorem cons_nil_iff : d.MadeOf ([] :: batches) ↔ d.MadeOf batches := by
  constructor
  · intro h
    refine ⟨h.disjoint, fun e i => ?_⟩
    rw [h.get?, List.exists_mem_cons_iff]
    exact or_iff_right List.not_mem_nil
  · intro h
    refine ⟨h.disjoint, fun e i => ?_⟩
    rw [h.get?, List.exists_mem_cons_iff]
    exact (or_iff_right List.not_mem_nil).symm

/-- a batch that conflicts with nothing shares no name with the others -/
theorem not_mem_of_conflict?_none {es' : List (String × ι)} {e : String} (h : d.MadeOf batches)
    (hd : d.conflict? es = none) (hes' : es' ∈ batches) (he : e ∈ es'.map (·.1)) : e ∉ es.map (·.1) := by
  intro hes
  obtain ⟨⟨e, i⟩, hi, rfl⟩ := List.mem_map.1 he
  have found : d.get? e = some i := (h.get? e i).2 ⟨es', hes', hi⟩
  rw [Directory.get?_of_conflict?_none hd e hes] at found
  cases found

/-- **A new batch** that conflicts with nothing joins the others. -/
theorem insertAll (h : d.MadeOf batches) (hes : (es.map (·.1)).Nodup) (hd : d.conflict? es = none) :
    Directory.MadeOf (d.insertAll es) (es :: batches) := by
  constructor
  case disjoint =>
    rw [List.flatMap_cons, List.nodup_append]
    refine ⟨hes, h.disjoint, fun e he e' he' heq => ?_⟩
    obtain ⟨es', hes', he'⟩ := List.mem_flatMap.1 he'
    exact h.not_mem_of_conflict?_none hd hes' he' (heq ▸ he)
  case get? =>
    intro e i
    rw [List.exists_mem_cons_iff]
    by_cases he : e ∈ es.map (·.1)
    · obtain ⟨⟨e, i'⟩, hi', rfl⟩ := List.mem_map.1 he
      have placed := Dict.get?_insertAll_of_mem d hes hi'
      rw [placed]
      constructor
      · intro hi
        cases hi
        exact .inl hi'
      · rintro (hi | ⟨es', hes', hi⟩)
        · exact placed.symm.trans (Dict.get?_insertAll_of_mem d hes hi)
        · exact absurd he (h.not_mem_of_conflict?_none hd hes' (List.mem_map.2 ⟨(e, i), hi, rfl⟩))
    · rw [Dict.get?_insertAll_of_not_mem _ he, h.get?]
      constructor
      · exact .inr
      · rintro (hi | hi)
        · exact absurd (List.mem_map.2 ⟨(e, i), hi, rfl⟩) he
        · exact hi

/-- **A batch that is removed** leaves the others as they are. -/
theorem eraseAll (h : d.MadeOf (es :: batches)) : Directory.MadeOf (d.eraseAll (es.map (·.1))) batches := by
  have disjoint := h.disjoint
  rw [List.flatMap_cons, List.nodup_append] at disjoint
  refine ⟨disjoint.2.1, fun e i => ?_⟩
  by_cases he : e ∈ es.map (·.1)
  · rw [Dict.get?_eraseAll_of_mem _ he]
    constructor
    · intro hi
      cases hi
    · rintro ⟨es', hes', hi⟩
      have again : e ∈ batches.flatMap (·.map (·.1)) :=
        List.mem_flatMap.2 ⟨es', hes', List.mem_map.2 ⟨(e, i), hi, rfl⟩⟩
      exact absurd rfl (disjoint.2.2 e he e again)
  · rw [Dict.get?_eraseAll_of_not_mem _ he, h.get?, List.exists_mem_cons_iff]
    constructor
    · rintro (hi | hi)
      · exact absurd (List.mem_map.2 ⟨(e, i), hi, rfl⟩) he
      · exact hi
    · exact .inr

end Directory.MadeOf

/-! ## Statuses -/

theorem Statuses.isStarted_of_get? {s : Statuses} {status : BlockStatus} {name : String}
    (h : s.get? name = some status) : s.isStarted name = status.isStarted := by
  rw [isStarted, h]
  rfl

theorem Statuses.isStarted_of_get?_eq {s s' : Statuses} {name : String} (h : s'.get? name = s.get? name) :
    s'.isStarted name = s.isStarted name := by
  rw [isStarted, isStarted, h]

/-- exactly some names, each with its context name, are recorded as started, and none of them twice -/
structure Statuses.Tells (s : Statuses) (started : List (String × String)) : Prop where
  names : (started.map (·.1)).Nodup
  recorded : ∀ name contextName, (name, contextName) ∈ started → s.get? name = some ⟨name, contextName, .started⟩
  isStarted_iff : ∀ name, s.isStarted name = true ↔ name ∈ started.map (·.1)

namespace Statuses.Tells

variable {s : Statuses} {started : List (String × String)} {name contextName : String}

theorem empty : Statuses.Tells .empty [] where
  names := List.nodup_nil
  recorded := nofun
  isStarted_iff name := by simp [isStarted]

theorem perm {started' : List (String × String)} (h : s.Tells started) (hp : started.Perm started') :
    s.Tells started' where
  names := (hp.map _).nodup_iff.1 h.names
  recorded name contextName hmem := h.recorded name contextName (hp.mem_iff.2 hmem)
  isStarted_iff name := by rw [h.isStarted_iff, (hp.map _).mem_iff]

/-- a name that is not recorded as started is none of those that are -/
theorem ne_of_mem (h : s.Tells started) (hs : s.isStarted name = false) {name' contextName' : String}
    (hmem : (name', contextName') ∈ started) : name' ≠ name := by
  rintro rfl
  rw [(h.isStarted_iff name').2 (List.mem_map.2 ⟨_, hmem, rfl⟩)] at hs
  cases hs

/-- **A failure** that is recorded says nothing of the names that are started. -/
theorem fail (h : s.Tells started) (hs : s.isStarted name = false) (cause : CapturedFailure) :
    Statuses.Tells (s.insert name ⟨name, contextName, .failed cause⟩) started where
  names := h.names
  recorded name' contextName' hmem := by
    rw [Dict.get?_insert_ne _ _ (h.ne_of_mem hs hmem)]
    exact h.recorded name' contextName' hmem
  isStarted_iff name' := by
    rw [← h.isStarted_iff]
    by_cases e : name' = name
    · rw [e, hs, isStarted_of_get? (Dict.get?_insert_self _ _ _)]
      rfl
    · rw [isStarted_of_get?_eq (Dict.get?_insert_ne _ _ e)]

/-- **A start** adds a name that was not started. -/
theorem start (h : s.Tells started) (hs : s.isStarted name = false) :
    Statuses.Tells (s.insert name ⟨name, contextName, .started⟩) ((name, contextName) :: started) := by
  constructor
  case names =>
    rw [List.map_cons, List.nodup_cons]
    refine ⟨fun hmem => ?_, h.names⟩
    obtain ⟨⟨name', contextName'⟩, hmem, hname⟩ := List.mem_map.1 hmem
    exact h.ne_of_mem hs hmem hname
  case recorded =>
    intro name' contextName' hmem
    rcases List.mem_cons.1 hmem with hmem | hmem
    · cases hmem
      exact Dict.get?_insert_self _ _ _
    · rw [Dict.get?_insert_ne _ _ (h.ne_of_mem hs hmem)]
      exact h.recorded name' contextName' hmem
  case isStarted_iff =>
    intro name'
    rw [List.map_cons, List.mem_cons]
    by_cases e : name' = name
    · rw [e, isStarted_of_get? (Dict.get?_insert_self _ _ _)]
      exact ⟨fun _ => .inl rfl, fun _ => rfl⟩
    · rw [isStarted_of_get?_eq (Dict.get?_insert_ne _ _ e), h.isStarted_iff]
      exact (or_iff_right e).symm

/-- **A stop** removes its name and no other. -/
theorem stop (h : s.Tells ((name, contextName) :: started)) : Statuses.Tells (s.erase name) started := by
  have names := h.names
  rw [List.map_cons, List.nodup_cons] at names
  have other {name' contextName' : String} (hmem : (name', contextName') ∈ started) : name' ≠ name := by
    rintro rfl
    exact names.1 (List.mem_map.2 ⟨_, hmem, rfl⟩)
  constructor
  case names => exact names.2
  case recorded =>
    intro name' contextName' hmem
    rw [Dict.get?_erase_ne _ (other hmem)]
    exact h.recorded name' contextName' (List.mem_cons_of_mem _ hmem)
  case isStarted_iff =>
    intro name'
    by_cases e : name' = name
    · rw [e, isStarted, Dict.get?_erase_self]
      exact ⟨nofun, fun hmem => absurd hmem names.1⟩
    · rw [isStarted_of_get?_eq (Dict.get?_erase_ne _ e), h.isStarted_iff, List.map_cons, List.mem_cons]
      exact or_iff_right e

end Statuses.Tells

end Loopback
