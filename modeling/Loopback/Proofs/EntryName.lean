/-
The names of entries.

An entry is named by a context name and a canonical path. A canonical path starts with a slash, and neither a block
name read from a URL list nor the context name of a routable block has one, so the name of an entry says where the one
ends and the other starts.
- `append_injective`: the name of an entry decides its context name and its path;
- `DeploymentBlock.entryOf`: the entry of a service, if its path has a canonical form.
-/
import Loopback.Block

namespace Loopback

/-! ## Slashes -/

theorem takeWhile_ne_slash {l r : List Char} (h : '/' ∉ l) : (l ++ '/' :: r).takeWhile (· != '/') = l := by
  have word : ∀ c ∈ l, (c != '/') = true := by
    intro c hc
    rw [bne_iff_ne]
    rintro rfl
    exact h hc
  rw [List.takeWhile_append_of_pos word, List.takeWhile_cons_of_neg (by decide), List.append_nil]

/-- **Unique names.** Texts without a slash, each before a text that starts with one, are read off what they make up. -/
theorem append_injective {c c' p p' : String} (hc : '/' ∉ c.toList) (hc' : '/' ∉ c'.toList)
    (hp : p.toList.head? = some '/') (hp' : p'.toList.head? = some '/') (h : c ++ p = c' ++ p') : c = c' ∧ p = p' := by
  obtain ⟨r, hr⟩ : ∃ r, p.toList = '/' :: r := List.head?_eq_some_iff.1 hp
  obtain ⟨r', hr'⟩ : ∃ r, p'.toList = '/' :: r := List.head?_eq_some_iff.1 hp'
  have lists : c.toList ++ '/' :: r = c'.toList ++ '/' :: r' := by
    rw [← hr, ← hr', ← String.toList_append, ← String.toList_append, h]
  have contexts : c.toList = c'.toList := by
    have cut := congrArg (List.takeWhile (· != '/')) lists
    rwa [takeWhile_ne_slash hc, takeWhile_ne_slash hc'] at cut
  have paths : '/' :: r = '/' :: r' := by
    rw [contexts] at lists
    exact List.append_cancel_left lists
  refine ⟨String.toList_inj.1 contexts, String.toList_inj.1 ?_⟩
  rw [hr, hr', paths]

/-! ## Canonical paths -/

theorem ServiceName.head?_rooted (name : String) : (rooted name).toList.head? = some '/' := by
  unfold rooted
  split
  · next h => exact h
  · rw [String.toList_append]
    rfl

/-- a canonical path starts with a slash -/
theorem ServiceName.head?_of_normalize? {name path : String} (h : normalize? name = some path) :
    path.toList.head? = some '/' := by
  unfold normalize? at h
  dsimp only at h
  split at h
  · cases h
  · rw [← Option.some.inj h]
    exact head?_rooted _

/-! ## Entries of services -/

namespace DeploymentBlock

variable {ι : Type} {b : DeploymentBlock ι}

/-- the entry of a service, if its path has a canonical form -/
def entryOf (b : DeploymentBlock ι) (service : String × ι) : Option (String × ι) :=
  (ServiceName.normalize? service.1).map fun path => (b.context ++ path, service.2)

theorem entryOf_of_normalize? {service : String × ι} {path : String} (h : ServiceName.normalize? service.1 = some path) :
    b.entryOf service = some (b.context ++ path, service.2) := by
  rw [entryOf, h]
  rfl

/-- made entries are those of the services that they were made of -/
theorem mem_iff_entryOf {es services : List (String × ι)} (h : es.map some = services.map b.entryOf) {e : String × ι} :
    e ∈ es ↔ ∃ service ∈ services, b.entryOf service = some e := by
  rw [← List.mem_map, ← h, List.mem_map]
  simp

end DeploymentBlock

end Loopback
