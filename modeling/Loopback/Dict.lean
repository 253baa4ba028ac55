/-
Finite maps with their keys in order.

A `Dict κ α` is a list of pairs whose keys strictly ascend, so two of them with the same look-ups are equal. Main facts:
- `get?_insert`, `get?_erase`, `get?_empty`: each operation through the look-up;
- `mem_keys_iff`: the keys are the names a look-up finds; `keys_sorted`: they strictly ascend;
- `find?_values_eq_some_iff`: a search through the values finds the one of the least key;
- `ext_get?`: the look-up determines the map;
- `ofList_entries`: inserting the entries of a map in order gives the map back;
- `eraseAll_insertAll`: removing a batch of new keys undoes its insertion.
-/
namespace Loopback

/-! ## Model -/

/-- keys with a strict total order -/
class Key (κ : Type) where
  lt : κ → κ → Bool
  irrefl : ∀ a, lt a a = false
  trans : ∀ {a b c}, lt a b = true → lt b c = true → lt a c = true
  connected : ∀ {a b}, lt a b = false → lt b a = false → a = b

/-- texts in the order of their code points -/
instance : Key String where
  lt a b := decide (a < b)
  irrefl a := by simp
  trans h₁ h₂ := by
    simp only [decide_eq_true_eq] at *
    exact String.lt_trans h₁ h₂
  connected h₁ h₂ := by
    simp only [decide_eq_false_iff_not, String.not_lt] at *
    exact String.le_antisymm h₂ h₁

/-- pairs of bytes, the first one first -/
instance : Key (UInt8 × UInt8) where
  lt a b := decide (a.1 < b.1) || (decide (a.1 = b.1) && decide (a.2 < b.2))
  irrefl a := by simp
  trans {a b c} h₁ h₂ := by
    obtain ⟨a₁, a₂⟩ := a
    obtain ⟨b₁, b₂⟩ := b
    obtain ⟨c₁, c₂⟩ := c
    simp only [Bool.or_eq_true, Bool.and_eq_true, decide_eq_true_eq, UInt8.lt_iff_toNat_lt, ← UInt8.toNat_inj] at *
    omega
  connected {a b} h₁ h₂ := by
    obtain ⟨a₁, a₂⟩ := a
    obtain ⟨b₁, b₂⟩ := b
    simp only [Bool.or_eq_false_iff, Bool.and_eq_false_iff, decide_eq_false_iff_not, UInt8.lt_iff_toNat_lt,
      ← UInt8.toNat_inj, Prod.mk.injEq] at *
    omega

/-- a map with strictly ascending keys -/
structure Dict (κ α : Type) [Key κ] where
  entries : List (κ × α)
  sorted : entries.Pairwise fun a b => Key.lt a.1 b.1 = true

namespace Dict

variable {κ α : Type} [Key κ]

/-- look-up in a list of pairs -/
def find (k : κ) : List (κ × α) → Option α
  | [] => none
  | (k', a) :: r => if Key.lt k k' || Key.lt k' k then find k r else some a

/-- insertion into an ascending list; an equal key takes the new value -/
def put (k : κ) (a : α) : List (κ × α) → List (κ × α)
  | [] => [(k, a)]
  | (k', a') :: r =>
    if Key.lt k k' then (k, a) :: (k', a') :: r
    else if Key.lt k' k then (k', a') :: put k a r
    else (k, a) :: r

/-- removal from a list of pairs -/
def drop (k : κ) (l : List (κ × α)) : List (κ × α) :=
  l.filter fun e => Key.lt k e.1 || Key.lt e.1 k

theorem mem_put {k : κ} {a : α} {e : κ × α} {l : List (κ × α)} (h : e ∈ put k a l) : e = (k, a) ∨ e ∈ l := by
  induction l with
  | nil => simpa [put] using h
  | cons hd tl ih =>
    obtain ⟨k', a'⟩ := hd
    rw [put] at h
    split at h
    · simpa using h
    · split at h
      · rcases List.mem_cons.1 h with h | h
        · exact .inr (h ▸ List.mem_cons_self ..)
        · exact (ih h).imp_right (List.mem_cons_of_mem _)
      · exact (List.mem_cons.1 h).imp_right (List.mem_cons_of_mem _)

theorem put_sorted {k : κ} {a : α} {l : List (κ × α)} (h : l.Pairwise fun a b => Key.lt a.1 b.1 = true) :
    (put k a l).Pairwise fun a b => Key.lt a.1 b.1 = true := by
  induction l with
  | nil => simp [put]
  | cons hd tl ih =>
    obtain ⟨k', a'⟩ := hd
    obtain ⟨hhd, htl⟩ := List.pairwise_cons.1 h
    rw [put]
    split
    · next hlt =>
      refine List.pairwise_cons.2 ⟨fun e he => ?_, h⟩
      rcases List.mem_cons.1 he with rfl | he
      · exact hlt
      · exact Key.trans hlt (hhd e he)
    · next hlt =>
      split
      · next hgt =>
        refine List.pairwise_cons.2 ⟨fun e he => ?_, ih htl⟩
        rcases mem_put he with rfl | he
        · exact hgt
        · exact hhd e he
      · next hgt =>
        have e : k = k' := Key.connected (by simpa using hlt) (by simpa using hgt)
        subst e
        exact List.pairwise_cons.2 ⟨hhd, htl⟩

/-- the empty map -/
def empty : Dict κ α := ⟨[], .nil⟩

instance : Inhabited (Dict κ α) := ⟨empty⟩

/-- the value of a key -/
def get? (d : Dict κ α) (k : κ) : Option α := find k d.entries

/-- set the value of a key -/
def insert (d : Dict κ α) (k : κ) (a : α) : Dict κ α := ⟨put k a d.entries, put_sorted d.sorted⟩

/-- remove a key -/
def erase (d : Dict κ α) (k : κ) : Dict κ α := ⟨drop k d.entries, d.sorted.filter _⟩

/-- the keys, ascending -/
def keys (d : Dict κ α) : List κ := d.entries.map (·.1)

/-- the values, in the order of their keys -/
def values (d : Dict κ α) : List α := d.entries.map (·.2)

/-- the number of keys -/
def size (d : Dict κ α) : Nat := d.entries.length

def isEmpty (d : Dict κ α) : Bool := d.entries.isEmpty

def contains (d : Dict κ α) (k : κ) : Bool := (d.get? k).isSome

/-- insert pairs from left to right; the last value of a key stays -/
def insertAll (d : Dict κ α) (l : List (κ × α)) : Dict κ α :=
  l.foldl (fun d e => d.insert e.1 e.2) d

/-- remove keys -/
def eraseAll (d : Dict κ α) (l : List κ) : Dict κ α :=
  l.foldl erase d

/-- the map of a list of pairs; the last value of a key stays -/
def ofList (l : List (κ × α)) : Dict κ α := empty.insertAll l

/-! ## Look-ups -/

theorem lt_or_lt_iff {a b : κ} : (Key.lt a b || Key.lt b a) = true ↔ a ≠ b := by
  constructor
  · rintro h rfl
    simp [Key.irrefl] at h
  · intro h
    by_cases h₁ : Key.lt a b <;> by_cases h₂ : Key.lt b a <;> simp_all
    exact h (Key.connected h₁ h₂)

theorem find_cons_self {k : κ} {a : α} {l : List (κ × α)} : find k ((k, a) :: l) = some a := by
  simp [find, Key.irrefl]

theorem find_cons_ne {k k' : κ} {a : α} {l : List (κ × α)} (h : k ≠ k') : find k ((k', a) :: l) = find k l := by
  rw [find, if_pos (lt_or_lt_iff.2 h)]

theorem find_put_self {k : κ} {a : α} {l : List (κ × α)} : find k (put k a l) = some a := by
  induction l with
  | nil => exact find_cons_self
  | cons hd tl ih =>
    obtain ⟨k', a'⟩ := hd
    rw [put]
    split
    · exact find_cons_self
    · split
      · next h =>
        have : k ≠ k' := by
          rintro rfl
          simp [Key.irrefl] at h
        rw [find_cons_ne this, ih]
      · exact find_cons_self

theorem find_put_ne {k k' : κ} {a : α} {l : List (κ × α)} (h : k' ≠ k) : find k' (put k a l) = find k' l := by
  induction l with
  | nil => exact find_cons_ne h
  | cons hd tl ih =>
    obtain ⟨k₁, a₁⟩ := hd
    rw [put]
    split
    · exact find_cons_ne h
    · split
      · by_cases e : k' = k₁
        · subst e
          rw [find_cons_self, find_cons_self]
        · rw [find_cons_ne e, find_cons_ne e, ih]
      · next h₁ h₂ =>
        have e : k = k₁ := Key.connected (by simpa using h₁) (by simpa using h₂)
        subst e
        rw [find_cons_ne h, find_cons_ne h]

theorem find_drop_self {k : κ} {l : List (κ × α)} : find k (drop k l) = none := by
  induction l with
  | nil => rfl
  | cons hd tl ih =>
    obtain ⟨k', a'⟩ := hd
    by_cases h : (Key.lt k k' || Key.lt k' k) = true
    · rw [drop, List.filter_cons_of_pos (by exact h), find, if_pos h]
      exact ih
    · rw [drop, List.filter_cons_of_neg (by exact h)]
      exact ih

theorem find_drop_ne {k k' : κ} {l : List (κ × α)} (h : k' ≠ k) : find k' (drop k l) = find k' l := by
  induction l with
  | nil => rfl
  | cons hd tl ih =>
    obtain ⟨k₁, a₁⟩ := hd
    by_cases e : k = k₁
    · subst e
      rw [drop, List.filter_cons_of_neg (by simp [Key.irrefl]), find_cons_ne h]
      exact ih
    · rw [drop, List.filter_cons_of_pos (by exact lt_or_lt_iff.2 e)]
      by_cases e' : k' = k₁
      · subst e'
        rw [find_cons_self, find_cons_self]
      · rw [find_cons_ne e', find_cons_ne e']
        exact ih

@[simp] theorem get?_empty (k : κ) : (empty : Dict κ α).get? k = none := rfl

theorem get?_insert_self (d : Dict κ α) (k : κ) (a : α) : (d.insert k a).get? k = some a := find_put_self

theorem get?_insert_ne (d : Dict κ α) {k k' : κ} (a : α) (h : k' ≠ k) : (d.insert k a).get? k' = d.get? k' :=
  find_put_ne h

theorem get?_insert [DecidableEq κ] (d : Dict κ α) (k k' : κ) (a : α) :
    (d.insert k a).get? k' = if k' = k then some a else d.get? k' := by
  split
  · next h => rw [h, get?_insert_self]
  · next h => exact get?_insert_ne d a h

theorem get?_erase_self (d : Dict κ α) (k : κ) : (d.erase k).get? k = none := find_drop_self

theorem get?_erase_ne (d : Dict κ α) {k k' : κ} (h : k' ≠ k) : (d.erase k).get? k' = d.get? k' := find_drop_ne h

theorem get?_erase [DecidableEq κ] (d : Dict κ α) (k k' : κ) :
    (d.erase k).get? k' = if k' = k then none else d.get? k' := by
  split
  · next h => rw [h, get?_erase_self]
  · next h => exact get?_erase_ne d h

/-! ## Keys -/

theorem keys_sorted (d : Dict κ α) : d.keys.Pairwise fun a b => Key.lt a b = true :=
  List.pairwise_map.2 d.sorted

theorem find_eq_some_iff {k : κ} {a : α} {l : List (κ × α)} (h : l.Pairwise fun a b => Key.lt a.1 b.1 = true) :
    find k l = some a ↔ (k, a) ∈ l := by
  induction l with
  | nil => simp [find]
  | cons hd tl ih =>
    obtain ⟨k', a'⟩ := hd
    obtain ⟨hhd, htl⟩ := List.pairwise_cons.1 h
    by_cases e : k = k'
    · subst e
      rw [find_cons_self]
      constructor
      · intro h
        injection h with h
        simp [h]
      · intro h
        rcases List.mem_cons.1 h with h | h
        · injection h with _ h
          rw [h]
        · have := hhd _ h
          simp [Key.irrefl] at this
    · rw [find_cons_ne e, ih htl]
      constructor
      · exact List.mem_cons_of_mem _
      · intro h
        rcases List.mem_cons.1 h with h | h
        · injection h with h _
          exact absurd h e
        · exact h

theorem get?_eq_some_iff {d : Dict κ α} {k : κ} {a : α} : d.get? k = some a ↔ (k, a) ∈ d.entries :=
  find_eq_some_iff d.sorted

theorem mem_keys_iff {d : Dict κ α} {k : κ} : k ∈ d.keys ↔ d.contains k = true := by
  rw [contains, Option.isSome_iff_exists, keys, List.mem_map]
  constructor
  · rintro ⟨⟨k', a⟩, h, rfl⟩
    exact ⟨a, get?_eq_some_iff.2 h⟩
  · rintro ⟨a, h⟩
    exact ⟨(k, a), get?_eq_some_iff.1 h, rfl⟩

theorem find?_values_iff_of_sorted {p : α → Bool} {a : α} {l : List (κ × α)}
    (h : l.Pairwise fun a b => Key.lt a.1 b.1 = true) :
    (l.map (·.2)).find? p = some a ↔
      ∃ k, (k, a) ∈ l ∧ p a = true ∧ ∀ e ∈ l, Key.lt e.1 k = true → p e.2 = false := by
  induction l with
  | nil => simp
  | cons hd tl ih =>
    obtain ⟨k₀, a₀⟩ := hd
    obtain ⟨hhd, htl⟩ := List.pairwise_cons.1 h
    rw [List.map_cons]
    cases h₀ : p a₀ with
    | true =>
      rw [List.find?_cons_of_pos h₀]
      constructor
      · intro ha
        cases ha
        refine ⟨k₀, List.mem_cons_self, h₀, fun e he hlt => ?_⟩
        rcases List.mem_cons.1 he with rfl | he
        · rw [Key.irrefl] at hlt
          cases hlt
        · have := Key.trans hlt (hhd e he)
          rw [Key.irrefl] at this
          cases this
      · rintro ⟨k, hmem, -, hleast⟩
        rcases List.mem_cons.1 hmem with hmem | hmem
        · cases hmem
          rfl
        · cases h₀.symm.trans (hleast (k₀, a₀) List.mem_cons_self (hhd _ hmem))
    | false =>
      rw [List.find?_cons_of_neg (by rw [h₀]; exact Bool.false_ne_true), ih htl]
      constructor
      · rintro ⟨k, hmem, ha, hleast⟩
        exact ⟨k, List.mem_cons_of_mem _ hmem, ha, List.forall_mem_cons.2 ⟨fun _ => h₀, hleast⟩⟩
      · rintro ⟨k, hmem, ha, hleast⟩
        rcases List.mem_cons.1 hmem with hmem | hmem
        · cases hmem
          cases h₀.symm.trans ha
        · exact ⟨k, hmem, ha, (List.forall_mem_cons.1 hleast).2⟩

/-- the first of the values with a property is the one of the least key that has such a value -/
theorem find?_values_eq_some_iff {d : Dict κ α} {p : α → Bool} {a : α} :
    d.values.find? p = some a ↔
      ∃ k, d.get? k = some a ∧ p a = true ∧ ∀ k' a', Key.lt k' k = true → d.get? k' = some a' → p a' = false := by
  rw [values, find?_values_iff_of_sorted d.sorted]
  constructor
  · rintro ⟨k, hmem, ha, hleast⟩
    exact ⟨k, get?_eq_some_iff.2 hmem, ha, fun k' a' hlt hget => hleast _ (get?_eq_some_iff.1 hget) hlt⟩
  · rintro ⟨k, hget, ha, hleast⟩
    exact ⟨k, get?_eq_some_iff.1 hget, ha, fun e he hlt => hleast e.1 e.2 hlt (get?_eq_some_iff.2 he)⟩

/-! ## Equality -/

theorem ext_entries {d e : Dict κ α} (h : d.entries = e.entries) : d = e := by
  cases d
  cases e
  cases h
  rfl

theorem eq_of_find_eq {l m : List (κ × α)} (hl : l.Pairwise fun a b => Key.lt a.1 b.1 = true)
    (hm : m.Pairwise fun a b => Key.lt a.1 b.1 = true) (h : ∀ k, find k l = find k m) : l = m := by
  induction l generalizing m with
  | nil =>
    cases m with
    | nil => rfl
    | cons hd tl => simpa [find, Key.irrefl] using h hd.1
  | cons hd tl ih =>
    cases m with
    | nil => simpa [find, Key.irrefl] using h hd.1
    | cons hd' tl' =>
      obtain ⟨k, a⟩ := hd
      obtain ⟨k', a'⟩ := hd'
      obtain ⟨hhd, htl⟩ := List.pairwise_cons.1 hl
      obtain ⟨hhd', htl'⟩ := List.pairwise_cons.1 hm
      have mem : (k, a) ∈ (k', a') :: tl' := (find_eq_some_iff hm).1 (by rw [← h, find_cons_self])
      have mem' : (k', a') ∈ (k, a) :: tl := (find_eq_some_iff hl).1 (by rw [h, find_cons_self])
      have e : (k, a) = (k', a') := by
        rcases List.mem_cons.1 mem with e | mem
        · exact e
        · rcases List.mem_cons.1 mem' with e | mem'
          · exact e.symm
          · have := Key.trans (hhd' _ mem) (hhd _ mem')
            simp [Key.irrefl] at this
      injection e with e₁ e₂
      subst e₁ e₂
      congr 1
      refine ih htl htl' fun k₁ => ?_
      by_cases e : k₁ = k
      · subst e
        have none_of {t : List (κ × α)} (ht : ∀ x ∈ t, Key.lt k₁ x.1 = true)
            (hp : t.Pairwise fun a b => Key.lt a.1 b.1 = true) : find k₁ t = none := by
          cases hf : find k₁ t with
          | none => rfl
          | some b =>
            have := ht _ ((find_eq_some_iff hp).1 hf)
            simp [Key.irrefl] at this
        rw [none_of hhd htl, none_of hhd' htl']
      · have := h k₁
        rwa [find_cons_ne e, find_cons_ne e] at this

/-- **Extensionality.** Maps with the same look-ups are equal. -/
theorem ext_get? {d e : Dict κ α} (h : ∀ k, d.get? k = e.get? k) : d = e :=
  ext_entries (eq_of_find_eq d.sorted e.sorted h)

/-- the first value of a key in a list of pairs with its keys ascending, after insertion of that list -/
theorem get?_insertAll_of_sorted (l : List (κ × α)) (h : l.Pairwise fun a b => Key.lt a.1 b.1 = true)
    (d : Dict κ α) (k : κ) : (d.insertAll l).get? k = (find k l).or (d.get? k) := by
  induction l generalizing d with
  | nil => rfl
  | cons hd tl ih =>
    obtain ⟨k', a⟩ := hd
    obtain ⟨hhd, htl⟩ := List.pairwise_cons.1 h
    have step : d.insertAll ((k', a) :: tl) = (d.insert k' a).insertAll tl := rfl
    rw [step, ih htl]
    by_cases e : k = k'
    · subst e
      have : find k tl = none := by
        cases hf : find k tl with
        | none => rfl
        | some b =>
          have := hhd _ ((find_eq_some_iff htl).1 hf)
          simp [Key.irrefl] at this
      rw [this, find_cons_self, get?_insert_self]
      rfl
    · rw [find_cons_ne e, get?_insert_ne _ _ e]

/-- **Reading back.** Inserting the entries of a map in order gives the map. -/
theorem ofList_entries (d : Dict κ α) : ofList d.entries = d :=
  ext_get? fun k => by
    rw [ofList, get?_insertAll_of_sorted _ d.sorted]
    show (d.get? k).or none = d.get? k
    simp

/-! ## Batches -/

theorem get?_insertAll_of_not_mem (d : Dict κ α) {l : List (κ × α)} {k : κ} (h : k ∉ l.map (·.1)) :
    (d.insertAll l).get? k = d.get? k := by
  induction l generalizing d with
  | nil => rfl
  | cons e l ih =>
    rw [List.map_cons, List.mem_cons, not_or] at h
    show ((d.insert e.1 e.2).insertAll l).get? k = d.get? k
    rw [ih _ h.2, get?_insert_ne _ _ h.1]

theorem get?_insertAll_of_mem (d : Dict κ α) {l : List (κ × α)} (hl : (l.map (·.1)).Nodup) {k : κ} {a : α}
    (h : (k, a) ∈ l) : (d.insertAll l).get? k = some a := by
  induction l generalizing d with
  | nil => cases h
  | cons e l ih =>
    obtain ⟨hfresh, hl⟩ := List.nodup_cons.1 hl
    show ((d.insert e.1 e.2).insertAll l).get? k = some a
    rcases List.mem_cons.1 h with rfl | h
    · rw [get?_insertAll_of_not_mem _ hfresh, get?_insert_self]
    · exact ih _ hl h

theorem get?_eraseAll_of_mem (d : Dict κ α) {l : List κ} {k : κ} (h : k ∈ l) : (d.eraseAll l).get? k = none := by
  have stays (l : List κ) (d : Dict κ α) (hd : d.get? k = none) : (d.eraseAll l).get? k = none := by
    induction l generalizing d with
    | nil => exact hd
    | cons k' l ih =>
      refine ih _ ?_
      by_cases e : k = k'
      · rw [e, get?_erase_self]
      · rw [get?_erase_ne _ e, hd]
  induction l generalizing d with
  | nil => cases h
  | cons k' l ih =>
    show ((d.erase k').eraseAll l).get? k = none
    rcases List.mem_cons.1 h with rfl | h
    · exact stays l _ (get?_erase_self d k)
    · exact ih _ h

theorem get?_eraseAll_of_not_mem (d : Dict κ α) {l : List κ} {k : κ} (h : k ∉ l) :
    (d.eraseAll l).get? k = d.get? k := by
  induction l generalizing d with
  | nil => rfl
  | cons k' l ih =>
    rw [List.mem_cons, not_or] at h
    show ((d.erase k').eraseAll l).get? k = d.get? k
    rw [ih _ h.2, get?_erase_ne _ h.1]

/-- **Rolling back.** Removing a batch of new keys undoes its insertion. -/
theorem eraseAll_insertAll (d : Dict κ α) {l : List (κ × α)} (h : ∀ k ∈ l.map (·.1), d.get? k = none) :
    (d.insertAll l).eraseAll (l.map (·.1)) = d :=
  ext_get? fun k => by
    by_cases hk : k ∈ l.map (·.1)
    · rw [get?_eraseAll_of_mem _ hk, h k hk]
    · rw [get?_eraseAll_of_not_mem _ hk, get?_insertAll_of_not_mem _ hk]

end Dict

end Loopback
