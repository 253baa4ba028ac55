/-
The lists of services that a block may declare.

The entries of a block are made one after the other, and the name of each is compared with those made before. Here the
lists that pass are told by their paths alone, and a list that does not pass by the first service that is at fault.
- `WellNamed`: all paths have canonical forms, no two of them the same;
- `DeploymentBlock.Faults`: what is wrong with a service behind others;
- `DeploymentBlock.any_entry_iff`: comparing entries is comparing canonical paths;
- `DeploymentBlock.entriesFrom_append`, `DeploymentBlock.entriesFrom_of_faults`: well-named services are passed one by one,
  and the first one at fault ends the list;
- `DeploymentBlock.entries_nodup`, `DeploymentBlock.service_unique`: no two entries of a block share a name, and no two
  services a canonical path;
- `service_list_exact`: a block has entries exactly if its services are well named, and else fails for its first fault.
-/
import Mathlib.Data.List.Induction
import Mathlib.Data.List.Nodup
import Loopback.Proofs.EntryName

namespace Loopback

variable {ι : Type}

/-! ## Well-named services -/

/-- services whose paths have canonical forms, no two of them the same -/
structure WellNamed (services : List (String × ι)) : Prop where
  named : ∀ s ∈ services, ∃ path, ServiceName.normalize? s.1 = some path
  distinct : services.Pairwise fun s s' => ServiceName.normalize? s.1 ≠ ServiceName.normalize? s'.1

namespace WellNamed

variable {services before after : List (String × ι)} {s : String × ι} {path : String}

theorem nil : WellNamed ([] : List (String × ι)) := ⟨nofun, .nil⟩

/-- one more service is well named if its path has a canonical form that no path before it has -/
theorem concat (h : WellNamed before) (hn : ServiceName.normalize? s.1 = some path)
    (hfresh : ∀ s' ∈ before, ServiceName.normalize? s'.1 ≠ some path) : WellNamed (before ++ [s]) := by
  constructor
  · intro s' hs'
    rcases List.mem_append.1 hs' with hs' | hs'
    · exact h.named s' hs'
    · rw [List.mem_singleton.1 hs']
      exact ⟨path, hn⟩
  · rw [List.pairwise_append]
    refine ⟨h.distinct, List.pairwise_singleton _ _, ?_⟩
    intro s' hs' s'' hs''
    rw [List.mem_singleton.1 hs'', hn]
    exact hfresh s' hs'

/-- a service between others has a canonical path that none before it has -/
theorem exists_path (h : WellNamed (before ++ s :: after)) :
    ∃ path, ServiceName.normalize? s.1 = some path ∧ ∀ s' ∈ before, ServiceName.normalize? s'.1 ≠ some path := by
  obtain ⟨path, hn⟩ := h.named s (by simp)
  refine ⟨path, hn, fun s' hs' => ?_⟩
  rw [← hn]
  exact (List.pairwise_append.1 h.distinct).2.2 s' hs' s List.mem_cons_self

theorem paths_nodup (h : WellNamed services) : (services.map fun s => ServiceName.normalize? s.1).Nodup :=
  List.pairwise_map.2 h.distinct

end WellNamed

namespace DeploymentBlock

/-! ## Faults -/

/-- what is wrong with a path behind other services of a block -/
inductive Faults (b : DeploymentBlock ι) (before : List (String × ι)) (name : String) : StartError → Prop
  /-- it has no canonical form -/
  | unnamed (h : ServiceName.normalize? name = none) : Faults b before name (.unnamedService b.name)
  /-- a path before it has the same canonical form -/
  | repeated {path : String} (h : ServiceName.normalize? name = some path)
    (earlier : ∃ s ∈ before, ServiceName.normalize? s.1 = some path) :
    Faults b before name (.duplicateService b.name path)

variable {b : DeploymentBlock ι} {before after rest done es : List (String × ι)} {s : String × ι} {e : StartError}

/-- **The first fault.** Services that are not well named have a first one at fault. -/
theorem wellNamed_or_faults (b : DeploymentBlock ι) (services : List (String × ι)) :
    WellNamed services ∨ ∃ before s after e,
      services = before ++ s :: after ∧ WellNamed before ∧ b.Faults before s.1 e := by
  induction services using List.reverseRecOn with
  | nil => exact .inl .nil
  | append_singleton l s ih =>
    rcases ih with hl | ⟨before, s', after, e, rfl, hbefore, hfault⟩
    · cases hn : ServiceName.normalize? s.1 with
      | none => exact .inr ⟨l, s, [], _, rfl, hl, .unnamed hn⟩
      | some path =>
        by_cases earlier : ∃ s' ∈ l, ServiceName.normalize? s'.1 = some path
        · exact .inr ⟨l, s, [], _, rfl, hl, .repeated hn earlier⟩
        · exact .inl (hl.concat hn fun s' hs' hn' => earlier ⟨s', hs', hn'⟩)
    · exact .inr ⟨before, s', after ++ [s], e, by simp, hbefore, hfault⟩

/-! ## Making entries -/

/-- **Comparing entries.** An entry with the name of a path has been made exactly if a service before has this path: all
entries of a block start with its context name. -/
theorem any_entry_iff (hdone : done.map some = before.map b.entryOf) (path : String) :
    done.any (·.1 == b.context ++ path) = true ↔ ∃ s ∈ before, ServiceName.normalize? s.1 = some path := by
  constructor
  · intro h
    obtain ⟨entry, hentry, hname⟩ := List.any_eq_true.1 h
    obtain ⟨s, hs, hentry⟩ := (mem_iff_entryOf hdone).1 hentry
    obtain ⟨path', hn, rfl⟩ := Option.map_eq_some_iff.1 hentry
    obtain rfl : path' = path := (String.append_right_inj _).1 (eq_of_beq hname)
    exact ⟨s, hs, hn⟩
  · rintro ⟨s, hs, hn⟩
    exact List.any_eq_true.2 ⟨_, (mem_iff_entryOf hdone).2 ⟨s, hs, entryOf_of_normalize? hn⟩, by simp⟩

/-- a service at fault ends the list with its error -/
theorem entriesFrom_of_faults (hdone : done.map some = before.map b.entryOf) (h : b.Faults before s.1 e) :
    b.entriesFrom done (s :: rest) = .error e := by
  obtain ⟨name, invoker⟩ := s
  unfold entriesFrom
  cases h with
  | unnamed h => rw [h]
  | repeated h earlier =>
    rw [h]
    dsimp only
    rw [if_pos ((any_entry_iff hdone _).2 earlier)]

/-- a service with a path of its own adds its entry -/
theorem entriesFrom_of_fresh (hdone : done.map some = before.map b.entryOf) {path : String}
    (hn : ServiceName.normalize? s.1 = some path)
    (hfresh : ∀ s' ∈ before, ServiceName.normalize? s'.1 ≠ some path) :
    b.entriesFrom done (s :: rest) = b.entriesFrom (done ++ [(b.context ++ path, s.2)]) rest := by
  obtain ⟨name, invoker⟩ := s
  have unmade : ¬done.any (·.1 == b.context ++ path) = true := by
    rw [any_entry_iff hdone]
    rintro ⟨s', hs', hn'⟩
    exact hfresh s' hs' hn'
  rw [entriesFrom, hn]
  dsimp only
  rw [if_neg unmade]

/-- **Passing services.** Services that are well named behind those before them add their entries, one after the other. -/
theorem entriesFrom_append (services : List (String × ι)) (hdone : done.map some = before.map b.entryOf)
    (h : WellNamed (before ++ services)) (rest : List (String × ι)) :
    ∃ es, es.map some = (before ++ services).map b.entryOf ∧
      b.entriesFrom done (services ++ rest) = b.entriesFrom es rest := by
  induction services generalizing before done with
  | nil => exact ⟨done, by rw [List.append_nil, hdone], rfl⟩
  | cons s services ih =>
    obtain ⟨path, hn, hfresh⟩ := h.exists_path
    have hentry : b.entryOf s = some (b.context ++ path, s.2) := entryOf_of_normalize? hn
    have hdone' : (done ++ [(b.context ++ path, s.2)]).map some = (before ++ [s]).map b.entryOf := by
      simp [hdone, hentry]
    rw [List.append_cons] at h ⊢
    obtain ⟨es, hes, hrun⟩ := ih hdone' h
    refine ⟨es, hes, ?_⟩
    rw [← hrun]
    exact entriesFrom_of_fresh hdone hn hfresh

/-! ## The entries of a block -/

/-- well-named services have their entries, in order -/
theorem exists_entries_of_wellNamed (h : WellNamed b.services) :
    ∃ es, b.entries = .ok es ∧ es.map some = b.services.map b.entryOf := by
  have none : ([] : List (String × ι)).map some = ([] : List (String × ι)).map b.entryOf := rfl
  obtain ⟨es, hes, hrun⟩ := entriesFrom_append b.services none h []
  refine ⟨es, ?_, hes⟩
  rw [entries, ← List.append_nil b.services, hrun]
  rfl

/-- the first fault among the services is what the entries fail for -/
theorem entries_of_faults (hs : b.services = before ++ s :: after) (h : WellNamed before)
    (hfault : b.Faults before s.1 e) : b.entries = .error e := by
  have none : ([] : List (String × ι)).map some = ([] : List (String × ι)).map b.entryOf := rfl
  obtain ⟨es, hes, hrun⟩ := entriesFrom_append before none h (s :: after)
  rw [entries, hs, hrun]
  exact entriesFrom_of_faults hes hfault

/-- a block that has entries has well-named services, and their entries in order -/
theorem wellNamed_of_entries (h : b.entries = .ok es) :
    WellNamed b.services ∧ es.map some = b.services.map b.entryOf := by
  rcases b.wellNamed_or_faults b.services with hw | ⟨before, s, after, e, hs, hbefore, hfault⟩
  · obtain ⟨es', h', hes'⟩ := exists_entries_of_wellNamed hw
    cases h.symm.trans h'
    exact ⟨hw, hes'⟩
  · cases h.symm.trans (entries_of_faults hs hbefore hfault)

/-- a block that has none has a first service at fault -/
theorem faults_of_entries (h : b.entries = .error e) : ∃ before s after,
    b.services = before ++ s :: after ∧ WellNamed before ∧ b.Faults before s.1 e := by
  rcases b.wellNamed_or_faults b.services with hw | ⟨before, s, after, e', hs, hbefore, hfault⟩
  · obtain ⟨es, h', -⟩ := exists_entries_of_wellNamed hw
    cases h.symm.trans h'
  · cases h.symm.trans (entries_of_faults hs hbefore hfault)
    exact ⟨before, s, after, hs, hbefore, hfault⟩

/-- a list of services is refused for one without a name or for one that is declared twice -/
theorem entries_error (h : b.entries = .error e) :
    e = .unnamedService b.name ∨ ∃ path, e = .duplicateService b.name path := by
  obtain ⟨before, s, after, -, -, hfault⟩ := faults_of_entries h
  cases hfault with
  | unnamed hn => exact .inl rfl
  | repeated hn earlier => exact .inr ⟨_, rfl⟩

/-- **Entries.** The entries of a block are those of its services, in order of declaration. -/
theorem entries_map_some (h : b.entries = .ok es) : es.map some = b.services.map b.entryOf := (wellNamed_of_entries h).2

theorem mem_entries_iff (h : b.entries = .ok es) {e : String × ι} :
    e ∈ es ↔ ∃ service ∈ b.services, b.entryOf service = some e :=
  mem_iff_entryOf (entries_map_some h)

/-- the entries of a block have different names -/
theorem entries_nodup (h : b.entries = .ok es) : (es.map (·.1)).Nodup := by
  obtain ⟨hw, hes⟩ := wellNamed_of_entries h
  have names : (es.map (·.1)).map some =
      (b.services.map fun s => ServiceName.normalize? s.1).map (Option.map (b.context ++ ·)) := by
    have firsts := congrArg (List.map (Option.map (·.1))) hes
    simpa [entryOf, Function.comp_def] using firsts
  apply List.Nodup.of_map some
  rw [names]
  exact hw.paths_nodup.map (Option.map_injective fun _ _ => (String.append_right_inj _).1)

/-- services of a block with the same canonical path are one service -/
theorem service_unique (h : b.entries = .ok es) {service service' : String × ι}
    (hs : service ∈ b.services) (hs' : service' ∈ b.services) {path : String}
    (hp : ServiceName.normalize? service.1 = some path) (hp' : ServiceName.normalize? service'.1 = some path) :
    service = service' :=
  List.inj_on_of_nodup_map (wellNamed_of_entries h).1.paths_nodup hs hs' (hp.trans hp'.symm)

end DeploymentBlock

/-- **Service lists.** For every block:
- it has entries exactly if all its paths have canonical forms, no two of them the same;
- they are then one for each service, in order: the context name with the canonical path, and the invoker that is declared
  for it;
- it fails exactly for the first service at fault: those before it are well named, and its path has no canonical form, or
  has the one of a path before it, which the error then names. -/
theorem service_list_exact (b : DeploymentBlock ι) :
    ((∃ es, b.entries = .ok es) ↔ WellNamed b.services) ∧
      (∀ es, b.entries = .ok es → es.map some = b.services.map b.entryOf) ∧
      ∀ e, b.entries = .error e ↔ ∃ before s after,
        b.services = before ++ s :: after ∧ WellNamed before ∧ b.Faults before s.1 e := by
  refine ⟨?_, fun es h => DeploymentBlock.entries_map_some h, fun e => ?_⟩
  · constructor
    · rintro ⟨es, h⟩
      exact (DeploymentBlock.wellNamed_of_entries h).1
    · intro hw
      obtain ⟨es, h, -⟩ := DeploymentBlock.exists_entries_of_wellNamed hw
      exact ⟨es, h⟩
  · constructor
    · exact DeploymentBlock.faults_of_entries
    · rintro ⟨before, s, after, hs, hbefore, hfault⟩
      exact DeploymentBlock.entries_of_faults hs hbefore hfault

example : (⟨"core", some "shop", [("log ", 1), ("/a", 2), ("\t/log", 3), ("", 4)]⟩ : DeploymentBlock Nat).entries =
    .error (.duplicateService "core" "/log") := rfl

end Loopback
