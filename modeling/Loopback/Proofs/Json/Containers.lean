/-
Readers of lists, maps, records and variants.

Readers are combined as documents are: a list reads an array when the reader of its items reads each item, a record reads
an object when each field reads the member of its name, a variant reads its name alone or the only member of an object.
Inside delimiters items follow one another, and what is read of them leaves the closing delimiter. `Fields.Holds` relates
the fields of a record, in order, to members and to the values read.
- `takeList_reads`, `takeMap_reads`: lists and maps;
- `takeRecord_reads`: records;
- `takeVariant_reads_alone`, `takeVariant_reads_keyed`: variants.
-/
import Loopback.Proofs.Json.Reading

namespace Loopback.Json

open Scanner

variable {α β : Type}

/-! ## Items -/

section Items

variable {lb gap : Bytes}

/-- another item follows, after a comma unless it is the first -/
theorem nextItem_more (first : Bool) (hlb : Blanks lb) {b : UInt8} (hblank : isBlank b = false) (hend : b ≠ 0x5d)
    (r : Bytes) : nextItem first ((if first then [] else [0x2c]) ++ (lb ++ b :: r)) = (.ok true, b :: r) := by
  have next : peekToken (lb ++ b :: r) = (.ok (some b), b :: r) := peekToken_next hlb hblank r
  have go_on : (return true : Scanner Bool) (b :: r) = (.ok true, b :: r) := rfl
  unfold nextItem
  cases first with
  | true =>
    rw [if_pos rfl, List.nil_append, bind_of_ok next]
    refine (congrFun ?_ _).trans go_on
    split
    · next h => cases h
    · next h => exact absurd (Option.some.inj h) hend
    · rfl
  | false =>
    have comma (l : Bytes) : peekToken (0x2c :: l) = (.ok (some 0x2c), 0x2c :: l) := peekToken_cons (by decide) l
    rw [if_neg Bool.false_ne_true, List.singleton_append, bind_of_ok (comma _)]
    show (eat >>= _) _ = _
    rw [bind_of_ok (eat_cons _ _), bind_of_ok next]
    refine (congrFun ?_ _).trans go_on
    split
    · next h => exact absurd (Option.some.inj h) hend
    · rfl
    · next h => cases h

/-- no other item follows -/
theorem nextItem_end (first : Bool) (hg : Blanks gap) (r : Bytes) :
    nextItem first (gap ++ 0x5d :: r) = (.ok false, 0x5d :: r) := by
  have next : peekToken (gap ++ 0x5d :: r) = (.ok (some 0x5d), 0x5d :: r) :=
    peekToken_next hg (by decide) r
  unfold nextItem
  rw [bind_of_ok next]
  rfl

theorem endList_gap (hg : Blanks gap) (r : Bytes) : endList (gap ++ 0x5d :: r) = (.ok (), r) := by
  have next : peekToken (gap ++ 0x5d :: r) = (.ok (some 0x5d), 0x5d :: r) :=
    peekToken_next hg (by decide) r
  unfold endList
  rw [bind_of_ok next]
  rfl

/-- what follows an item inside delimiters does not go on with a number -/
theorem ends_sequence (lb : Bytes) (items : List Bytes) (hg : Blanks gap) {c : UInt8} (hc : c ∈ [0x2c, 0x5d, 0x7d])
    (r : Bytes) : Ends (sequence lb false items ++ (gap ++ c :: r)) := by
  cases items with
  | nil => exact ends_gap hg hc
  | cons i items =>
    have comma : (0x2c : UInt8) ∈ [0x2c, 0x5d, 0x7d] := List.mem_cons_self
    exact ends_gap blanks_nil comma

/-- each item takes a byte -/
theorem length_le_sequence (lb : Bytes) (first : Bool) {items : List Bytes} (h : ∀ i ∈ items, i ≠ []) :
    items.length ≤ (sequence lb first items).length := by
  induction items generalizing first with
  | nil => exact Nat.le_refl 0
  | cons i items ih =>
    have rest := ih false fun j hj => h j (List.mem_cons_of_mem _ hj)
    have byte : 0 < i.length := List.length_pos_of_ne_nil (h i List.mem_cons_self)
    rw [sequence, List.length_append, List.length_append, List.length_append, List.length_cons]
    omega

end Items

/-! ## Lists -/

/-- the bytes of documents at a depth -/
def itemBytes (ly : Layout) (d : Nat) (ts : List Tree) : List Bytes := ts.map fun t => Text.utf8 (t.render ly d)

theorem sequence_itemBytes_cons (lb : Bytes) (first : Bool) (ly : Layout) (d : Nat) (t : Tree) (ts : List Tree)
    (r : Bytes) : sequence lb first (itemBytes ly d (t :: ts)) ++ r = (if first then [] else [0x2c]) ++
      (lb ++ (Text.utf8 (t.render ly d) ++ (sequence lb false (itemBytes ly d ts) ++ r))) := by
  unfold itemBytes
  rw [List.map_cons, sequence]
  simp only [List.append_assoc]

/-- the reader gives the value for the items up to the end of their list -/
def ReadsItems (body : Scanner α) (first : Bool) (ts : List Tree) (a : α) : Prop :=
  ∀ (ly : Layout) (d : Nat) (gap r : Bytes), Blanks gap → ∃ gap', Blanks gap' ∧
    body (sequence (Text.utf8 (ly.lineBreak d)) first (itemBytes ly d ts) ++ (gap ++ 0x5d :: r)) =
      (.ok a, gap' ++ 0x5d :: r)

theorem ReadsItems.done {first : Bool} {a : α} : ReadsItems (return a) first [] a :=
  fun _ _ gap _ hg => ⟨gap, hg, rfl⟩

/-- something between delimiters is read where there is room for it -/
theorem enclosed_of_ok {room : Nat} (hroom : 0 < room) {body : Scanner α} {closing : Scanner Unit} {b : UInt8}
    {bs r r' : Bytes} {a : α} (h : body bs = (.ok a, r)) (hc : closing r = (.ok (), r')) :
    enclosed room body closing (b :: bs) = (.ok a, r') := by
  unfold enclosed
  rw [if_neg (Nat.pos_iff_ne_zero.1 hroom)]
  show located _ _ = _
  apply located_of_ok
  refine andThen_of_ok ?_ hc
  rw [bind_of_ok (eat_cons b bs)]
  exact h

/-- **Arrays.** What reads the items reads the array. -/
theorem takeArray_reads {room : Nat} {expected : String} {body : Scanner α} {ts : List Tree} {a : α}
    (hroom : 0 < room) (h : ReadsItems body true ts a) : Reads (takeArray room expected body) (.array ts) a where
  exact := trivial
  scans ly d w r hw hr := by
    obtain ⟨gap, hg, hbytes⟩ := utf8_block ly d "[" "]" (Tree.renderItems ly (d + 1) ts)
    obtain ⟨gap', hg', hbody⟩ := h ly (d + 1) gap r hg
    have opening : Text.utf8 "[" = [0x5b] := by decide
    have closing : Text.utf8 "]" = [0x5d] := by decide
    have bytes : Text.utf8 ((Tree.array ts).render ly d) ++ r = 0x5b ::
        (sequence (Text.utf8 (ly.lineBreak (d + 1))) true (itemBytes ly (d + 1) ts) ++ (gap ++ 0x5d :: r)) := by
      rw [Tree.render, Layout.array, hbytes, opening, closing, Tree.renderItems_eq, List.map_map]
      simp only [List.append_assoc, List.cons_append]
      rfl
    unfold takeArray
    rw [bytes, bind_of_ok (firstByte_cons hw (by decide) _)]
    exact enclosed_of_ok hroom hbody (endList_gap hg' r)

section Lists

variable {s : Scanner α}

/-- an item is read, and what comes after it is left -/
theorem item_scans {t : Tree} {a : α} (h : Reads s t a) (first : Bool) (ly : Layout) (d : Nat) {lb rest : Bytes}
    (hlb : Blanks lb) (hrest : Ends rest) :
    ∃ bs, nextItem first ((if first then [] else [0x2c]) ++ (lb ++ (Text.utf8 (t.render ly d) ++ rest))) =
      (.ok true, bs) ∧ s bs = (.ok a, rest) := by
  obtain ⟨b, l, hl, hblank, hend, -⟩ := exists_first h.exact ly d
  refine ⟨Text.utf8 (t.render ly d) ++ rest, ?_, h.scans ly d [] rest blanks_nil hrest⟩
  rw [hl, List.cons_append]
  exact nextItem_more first hlb hblank hend _

/-- an item of a tuple, and the items after it -/
theorem ReadsItems.place {k : α → Scanner β} {n : Nat} {expected : String} {t : Tree} {ts : List Tree} {a : α} {b : β}
    (h : Reads s t a) (hk : ReadsItems (k a) false ts b) :
    ReadsItems (takePlace n expected s >>= k) (n == 0) (t :: ts) b := by
  intro ly d gap r hg
  obtain ⟨gap', hg', hrest⟩ := hk ly d gap r hg
  refine ⟨gap', hg', ?_⟩
  obtain ⟨bs, hnext, hitem⟩ := item_scans h (n == 0) ly d (blanks_lineBreak ly d)
    (ends_sequence (Text.utf8 (ly.lineBreak d)) (itemBytes ly d ts) hg (c := 0x5d) (by decide) r)
  have place : takePlace n expected s (sequence (Text.utf8 (ly.lineBreak d)) (n == 0) (itemBytes ly d (t :: ts)) ++
      (gap ++ 0x5d :: r)) =
        (.ok a, sequence (Text.utf8 (ly.lineBreak d)) false (itemBytes ly d ts) ++ (gap ++ 0x5d :: r)) := by
    unfold takePlace
    rw [sequence_itemBytes_cons, bind_of_ok hnext, if_pos rfl]
    exact hitem
  rw [bind_of_ok place]
  exact hrest

theorem listItems_scans {g : α → Tree} {l : List α} (h : ∀ a ∈ l, Reads s (g a) a) (first : Bool) (ly : Layout) (d : Nat)
    {gap : Bytes} (hg : Blanks gap) (r : Bytes) {fuel : Nat} (hf : l.length < fuel) :
    listItems s fuel first (sequence (Text.utf8 (ly.lineBreak d)) first (itemBytes ly d (l.map g)) ++ (gap ++ 0x5d :: r)) =
      (.ok l, 0x5d :: r) := by
  induction l generalizing first fuel with
  | nil =>
    cases fuel with
    | zero => cases hf
    | succ fuel =>
      unfold listItems
      rw [List.map_nil, itemBytes, List.map_nil, sequence, List.nil_append, bind_of_ok (nextItem_end first hg r)]
      rfl
  | cons a l ih =>
    cases fuel with
    | zero => cases hf
    | succ fuel =>
      obtain ⟨bs, hnext, hitem⟩ := item_scans (h a List.mem_cons_self) first ly d (blanks_lineBreak ly d)
        (ends_sequence (Text.utf8 (ly.lineBreak d)) (itemBytes ly d (l.map g)) hg (c := 0x5d) (by decide) r)
      unfold listItems
      rw [List.map_cons, sequence_itemBytes_cons, bind_of_ok hnext, if_pos rfl, bind_of_ok hitem]
      exact map_of_ok (ih (fun b hb => h b (List.mem_cons_of_mem _ hb)) false (Nat.lt_of_succ_lt_succ hf))

/-- **Lists.** A list of values is read where each of them is. -/
theorem takeList_reads {room : Nat} (hroom : 0 < room) {g : α → Tree} {l : List α} (h : ∀ a ∈ l, Reads s (g a) a) :
    Reads (takeList room s) (.array (l.map g)) l := by
  refine takeArray_reads hroom fun ly d gap r hg => ⟨[], blanks_nil, ?_⟩
  have some_byte : ∀ i ∈ itemBytes ly d (l.map g), i ≠ [] := by
    intro i hi
    obtain ⟨t, ht, rfl⟩ := List.mem_map.1 hi
    obtain ⟨a, ha, rfl⟩ := List.mem_map.1 ht
    obtain ⟨b, bs, hbs, -⟩ := exists_first (h a ha).exact ly d
    rw [hbs]
    exact List.cons_ne_nil b bs
  have rounds := length_le_sequence (Text.utf8 (ly.lineBreak d)) true some_byte
  rw [itemBytes, List.length_map, List.length_map] at rounds
  rw [bind_of_ok (rest_eq _)]
  refine listItems_scans h true ly d hg r ?_
  rw [List.length_append]
  exact Nat.lt_succ_of_le (Nat.le_add_right_of_le rounds)

end Lists

/-! ## Members -/

section Members

variable {s : Scanner α} {gap : Bytes}

/-- another member follows, after a comma unless it is the first -/
theorem nextMember_more (first : Bool) {lb : Bytes} (hlb : Blanks lb) (r : Bytes) :
    nextMember first ((if first then [] else [0x2c]) ++ (lb ++ 0x22 :: r)) = (.ok true, 0x22 :: r) := by
  have next : peekToken (lb ++ 0x22 :: r) = (.ok (some 0x22), 0x22 :: r) :=
    peekToken_next hlb (by decide) r
  unfold nextMember
  cases first with
  | true =>
    rw [if_pos rfl, List.nil_append, bind_of_ok next]
    rfl
  | false =>
    have comma (l : Bytes) : peekToken (0x2c :: l) = (.ok (some 0x2c), 0x2c :: l) := peekToken_cons (by decide) l
    rw [if_neg Bool.false_ne_true, List.singleton_append, bind_of_ok (comma _)]
    show (eat >>= _) _ = _
    rw [bind_of_ok (eat_cons _ _), bind_of_ok next]
    rfl

/-- no other member follows -/
theorem nextMember_end (first : Bool) (hg : Blanks gap) (r : Bytes) :
    nextMember first (gap ++ 0x7d :: r) = (.ok false, 0x7d :: r) := by
  have next : peekToken (gap ++ 0x7d :: r) = (.ok (some 0x7d), 0x7d :: r) :=
    peekToken_next hg (by decide) r
  unfold nextMember
  rw [bind_of_ok next]
  rfl

theorem endObject_cons (r : Bytes) : endObject (0x7d :: r) = (.ok (), r) := by
  have next : peekToken (0x7d :: r) = (.ok (some 0x7d), 0x7d :: r) := peekToken_cons (by decide) r
  unfold endObject
  rw [bind_of_ok next]
  rfl

theorem takeKey_text (k : String) (r : Bytes) : takeKey (Text.utf8 (text k) ++ r) = (.ok k, r) := by
  unfold takeKey
  rw [utf8_text, List.cons_append, List.append_assoc, List.singleton_append, bind_of_ok (eat_cons _ _)]
  exact textRest_text k r

/-- the colon is taken; blanks may be left before the value -/
theorem colon_scans (ly : Layout) : ∃ gap, Blanks gap ∧ ∀ r, colon (Text.utf8 ly.colon ++ r) = (.ok (), gap ++ r) := by
  obtain ⟨gap, hg, hc⟩ := utf8_colon ly
  refine ⟨gap, hg, fun r => ?_⟩
  have next : peekToken (0x3a :: (gap ++ r)) = (.ok (some 0x3a), 0x3a :: (gap ++ r)) := peekToken_cons (by decide) _
  unfold colon
  rw [hc, List.cons_append, bind_of_ok next]
  rfl

/-- the bytes of members at a depth -/
def memberBytes (ly : Layout) (d : Nat) (ms : List (String × Tree)) : List Bytes :=
  ms.map fun m => Text.utf8 (text m.1 ++ ly.colon ++ m.2.render ly d)

theorem utf8_object (ly : Layout) (d : Nat) (ms : List (String × Tree)) :
    ∃ gap, Blanks gap ∧ ∀ r, Text.utf8 ((Tree.object ms).render ly d) ++ r = 0x7b ::
      (sequence (Text.utf8 (ly.lineBreak (d + 1))) true (memberBytes ly (d + 1) ms) ++ (gap ++ 0x7d :: r)) := by
  obtain ⟨gap, hg, hbytes⟩ := utf8_block ly d "\x7b" "\x7d"
    ((Tree.renderMembers ly (d + 1) ms).map fun m => text m.1 ++ ly.colon ++ m.2)
  refine ⟨gap, hg, fun r => ?_⟩
  have opening : Text.utf8 "\x7b" = [0x7b] := by decide
  have closing : Text.utf8 "\x7d" = [0x7d] := by decide
  rw [Tree.render, Layout.object_eq, hbytes, opening, closing, Tree.renderMembers_eq, List.map_map, List.map_map]
  simp only [List.append_assoc, List.cons_append]
  rfl

/-- a member is scanned up to its colon -/
theorem memberKey_scans (k : String) (t : Tree) (first : Bool) (ly : Layout) (d : Nat) (ms : List (String × Tree))
    (r : Bytes) :
    ∃ bs, nextMember first (sequence (Text.utf8 (ly.lineBreak d)) first (memberBytes ly d ((k, t) :: ms)) ++ r) =
        (.ok true, bs) ∧
      takeKey bs = (.ok k, Text.utf8 ly.colon ++ (Text.utf8 (t.render ly d) ++
        (sequence (Text.utf8 (ly.lineBreak d)) false (memberBytes ly d ms) ++ r))) := by
  refine ⟨_, ?_, takeKey_text k _⟩
  unfold memberBytes
  rw [List.map_cons, sequence, utf8_append, utf8_append, utf8_text]
  simp only [List.append_assoc, List.cons_append]
  exact nextMember_more first (blanks_lineBreak ly d) _

/-- the value of a member is read after its colon -/
theorem memberValue_scans {t : Tree} {a : α} (h : Reads s t a) (ly : Layout) (d : Nat) {r : Bytes} (hr : Ends r) :
    ∃ bs, colon (Text.utf8 ly.colon ++ (Text.utf8 (t.render ly d) ++ r)) = (.ok (), bs) ∧ s bs = (.ok a, r) := by
  obtain ⟨sp, hsp, hcolon⟩ := colon_scans ly
  exact ⟨_, hcolon _, h.scans ly d sp r hsp hr⟩

/-- what follows a member does not go on with a number -/
theorem ends_members (ly : Layout) (d : Nat) (ms : List (String × Tree)) (hg : Blanks gap) (r : Bytes) :
    Ends (sequence (Text.utf8 (ly.lineBreak d)) false (memberBytes ly d ms) ++ (gap ++ 0x7d :: r)) :=
  ends_sequence _ _ hg (by decide) r

theorem length_le_members (ly : Layout) (d : Nat) (first : Bool) (ms : List (String × Tree)) (r : Bytes) :
    ms.length < (sequence (Text.utf8 (ly.lineBreak d)) first (memberBytes ly d ms) ++ r).length + 1 := by
  have some_byte : ∀ i ∈ memberBytes ly d ms, i ≠ [] := by
    intro i hi
    obtain ⟨m, hm, rfl⟩ := List.mem_map.1 hi
    rw [utf8_append, utf8_append, utf8_text]
    exact List.cons_ne_nil _ _
  have rounds := length_le_sequence (Text.utf8 (ly.lineBreak d)) first some_byte
  rw [memberBytes, List.length_map] at rounds
  rw [List.length_append]
  exact Nat.lt_succ_of_le (Nat.le_add_right_of_le rounds)

end Members

/-! ## Maps -/

section Maps

variable {s : Scanner α}

theorem mapMembers_scans {g : α → Tree} {l : List (String × α)} (h : ∀ e ∈ l, Reads s (g e.2) e.2) (first : Bool)
    (ly : Layout) (d : Nat) {gap : Bytes} (hg : Blanks gap) (r : Bytes) {fuel : Nat} (hf : l.length < fuel) :
    mapMembers takeKey s fuel first (sequence (Text.utf8 (ly.lineBreak d)) first
      (memberBytes ly d (l.map fun e => (e.1, g e.2))) ++ (gap ++ 0x7d :: r)) = (.ok l, 0x7d :: r) := by
  induction l generalizing first fuel with
  | nil =>
    cases fuel with
    | zero => cases hf
    | succ fuel =>
      unfold mapMembers
      rw [List.map_nil, memberBytes, List.map_nil, sequence, List.nil_append, bind_of_ok (nextMember_end first hg r)]
      rfl
  | cons e l ih =>
    cases fuel with
    | zero => cases hf
    | succ fuel =>
      obtain ⟨_, hnext, hkey⟩ := memberKey_scans e.1 (g e.2) first ly d (l.map fun e => (e.1, g e.2)) (gap ++ 0x7d :: r)
      obtain ⟨_, hcolon, hvalue⟩ := memberValue_scans (h e List.mem_cons_self) ly d
        (ends_members ly d (l.map fun e => (e.1, g e.2)) hg r)
      unfold mapMembers
      rw [List.map_cons, bind_of_ok hnext, if_pos rfl, bind_of_ok hkey, bind_of_ok hcolon, bind_of_ok hvalue]
      exact map_of_ok (ih (fun b hb => h b (List.mem_cons_of_mem _ hb)) false (Nat.lt_of_succ_lt_succ hf))

/-- the reader of the members reads the object -/
def ReadsMembers (body : Scanner α) (ms : List (String × Tree)) (a : α) : Prop :=
  ∀ (ly : Layout) (d : Nat) (gap r : Bytes), Blanks gap →
    body (sequence (Text.utf8 (ly.lineBreak d)) true (memberBytes ly d ms) ++ (gap ++ 0x7d :: r)) = (.ok a, 0x7d :: r)

theorem enclosed_members {room : Nat} (hroom : 0 < room) {body : Scanner α} {ms : List (String × Tree)} {a : α}
    (h : ReadsMembers body ms a) (ly : Layout) (d : Nat) (r : Bytes) :
    ∃ bs, Text.utf8 ((Tree.object ms).render ly d) ++ r = 0x7b :: bs ∧
      enclosed room body endObject (0x7b :: bs) = (.ok a, r) := by
  obtain ⟨gap, hg, hbytes⟩ := utf8_object ly d ms
  exact ⟨_, hbytes r, enclosed_of_ok hroom (h ly (d + 1) gap r hg) (endObject_cons r)⟩

/-- a map is read where its members are -/
theorem takeMap_reads_members {κ : Type} [Key κ] {room : Nat} (hroom : 0 < room) {key : Scanner κ}
    {ms : List (String × Tree)} {m : Dict κ α}
    (h : ReadsMembers (do return Dict.ofList (← mapMembers key s ((← rest).length + 1) true)) ms m) :
    Reads (takeMap room key s) (.object ms) m where
  exact := trivial
  scans ly d w r hw hr := by
    obtain ⟨bs, hbs, hbody⟩ := enclosed_members hroom h ly d r
    unfold takeMap
    rw [hbs, bind_of_ok (firstByte_cons hw (by decide) _)]
    exact hbody

/-- **Maps.** A map of texts is read where each of its values is. -/
theorem takeMap_reads {room : Nat} (hroom : 0 < room) {g : α → Tree} {m : Dict String α}
    (h : ∀ e ∈ m.entries, Reads s (g e.2) e.2) :
    Reads (takeMap room takeKey s) (.object (m.entries.map fun e => (e.1, g e.2))) m := by
  refine takeMap_reads_members hroom fun ly d gap r hg => ?_
  have rounds := length_le_members ly d true (m.entries.map fun e => (e.1, g e.2)) (gap ++ 0x7d :: r)
  rw [List.length_map] at rounds
  rw [bind_of_ok (rest_eq _), bind_of_ok (mapMembers_scans h true ly d hg r rounds), Dict.ofList_entries]
  rfl

/-- an empty map is read whatever its keys are -/
theorem takeMap_reads_empty {κ : Type} [Key κ] {room : Nat} (hroom : 0 < room) (key : Scanner κ) :
    Reads (takeMap room key s) (.object []) Dict.empty := by
  refine takeMap_reads_members hroom fun ly d gap r hg => ?_
  have no_member (fuel : Nat) : mapMembers key s (fuel + 1) true (gap ++ 0x7d :: r) = (.ok [], 0x7d :: r) := by
    unfold mapMembers
    rw [bind_of_ok (nextMember_end true hg r)]
    rfl
  rw [bind_of_ok (rest_eq _), memberBytes, List.map_nil, sequence, List.nil_append, bind_of_ok (no_member _)]
  rfl

end Maps

/-! ## Records -/

namespace Fields

/-- the fields hold values for members of their names, in order -/
inductive Holds : {α : Type} → Fields α → List (String × Tree) → α → Prop
  | done : Holds .done [] ()
  | field {α β : Type} {name : String} {read : Scanner α} {absent : Option α} {more : Fields β} {t : Tree} {a : α}
    {ms : List (String × Tree)} {b : β} (head : Reads read t a) (tail : more.Holds ms b) :
    Holds (.field name read absent more) ((name, t) :: ms) (a, b)

/-- the slots of a record that was read -/
def filled : {α : Type} → (f : Fields α) → α → f.Slots
  | _, done, _ => ()
  | _, field _ _ _ more, (a, b) => (some a, more.filled b)

/-- a member fills a slot -/
def Puts (f : Fields α) (k : String) (t : Tree) (s s' : f.Slots) : Prop :=
  ∀ (ly : Layout) (d : Nat) (r : Bytes), Ends r →
    f.put k s (Text.utf8 ly.colon ++ (Text.utf8 (t.render ly d) ++ r)) = (.ok (some s'), r)

/-- members fill slots one after the other -/
inductive Fills (f : Fields α) : List (String × Tree) → f.Slots → f.Slots → Prop
  | done (s : f.Slots) : Fills f [] s s
  | put {k : String} {t : Tree} {ms : List (String × Tree)} {s s₁ s₂ : f.Slots} (head : f.Puts k t s s₁)
    (tail : Fills f ms s₁ s₂) : Fills f ((k, t) :: ms) s s₂

section Slots

variable {name : String} {read : Scanner α} {absent : Option α} {more : Fields β}

/-- a member with the name of the first field fills the first slot -/
theorem Puts.here {t : Tree} {a : α} (h : Reads read t a) (s : more.Slots) :
    (field name read absent more).Puts name t (none, s) (some a, s) := by
  intro ly d r hr
  obtain ⟨_, hcolon, hvalue⟩ := memberValue_scans h ly d hr
  show (if name = name then (_ : Scanner (Option (field name read absent more).Slots)) else _) _ = _
  rw [if_pos rfl]
  show (colon >>= _) _ = _
  rw [bind_of_ok hcolon, bind_of_ok hvalue]
  rfl

/-- a member with another name fills a slot behind the first one -/
theorem Puts.there {k : String} {t : Tree} {s s' : more.Slots} (h : more.Puts k t s s') (hk : k ≠ name)
    (slot : Option α) : (field name read absent more).Puts k t (slot, s) (slot, s') := by
  intro ly d r hr
  show (if k = name then (_ : Scanner (Option (field name read absent more).Slots)) else _) _ = _
  rw [if_neg hk, bind_of_ok (h ly d r hr)]
  rfl

theorem Fills.there {ms : List (String × Tree)} {s s' : more.Slots} (h : more.Fills ms s s') (hk : ∀ m ∈ ms, m.1 ≠ name)
    (slot : Option α) : (field name read absent more).Fills ms (slot, s) (slot, s') := by
  induction h with
  | done s => exact .done (f := field name read absent more) (slot, s)
  | put head tail ih =>
    exact .put (head.there (hk _ List.mem_cons_self) slot) (ih fun m hm => hk m (List.mem_cons_of_mem _ hm))

end Slots

/-- the members that a record holds fill its slots -/
theorem Holds.fills {f : Fields α} {ms : List (String × Tree)} {a : α} (h : f.Holds ms a)
    (hd : (ms.map (·.1)).Nodup) : f.Fills ms f.unread (f.filled a) := by
  induction h with
  | done => exact .done (f := Fields.done) ()
  | @field α β name read absent more t a ms b head tail ih =>
    obtain ⟨hname, hd⟩ := List.nodup_cons.1 hd
    have others : ∀ m ∈ ms, m.1 ≠ name := by
      rintro m hm rfl
      exact hname (List.mem_map.2 ⟨m, hm, rfl⟩)
    exact .put (.here head more.unread) ((ih hd).there others (some a))

theorem close_filled : {α : Type} → (f : Fields α) → (a : α) → (bs : Bytes) → f.close (f.filled a) bs = (.ok a, bs)
  | _, done, _, _ => rfl
  | _, field _ _ _ more, (a, b), bs => by
    unfold close filled
    dsimp only
    show (more.close (more.filled b) >>= _) bs = _
    rw [bind_of_ok (close_filled more b bs)]
    rfl

theorem Fills.scans {f : Fields α} {ms : List (String × Tree)} {s s' : f.Slots} (h : f.Fills ms s s') (first : Bool)
    (ly : Layout) (d : Nat) {gap : Bytes} (hg : Blanks gap) (r : Bytes) {fuel : Nat} (hf : ms.length < fuel) :
    f.ofMembers fuel first s (sequence (Text.utf8 (ly.lineBreak d)) first (memberBytes ly d ms) ++ (gap ++ 0x7d :: r)) =
      (.ok s', 0x7d :: r) := by
  induction h generalizing first fuel with
  | done s =>
    cases fuel with
    | zero => cases hf
    | succ fuel =>
      unfold ofMembers
      rw [memberBytes, List.map_nil, sequence, List.nil_append, bind_of_ok (nextMember_end first hg r)]
      rfl
  | @put k t ms s s₁ s₂ head tail ih =>
    cases fuel with
    | zero => cases hf
    | succ fuel =>
      obtain ⟨_, hnext, hkey⟩ := memberKey_scans k t first ly d ms (gap ++ 0x7d :: r)
      unfold ofMembers
      rw [bind_of_ok hnext, if_pos rfl, bind_of_ok hkey, bind_of_ok (head ly d _ (ends_members ly d ms hg r))]
      exact ih false (Nat.lt_of_succ_lt_succ hf)

end Fields

/-- **Records.** A record is read from an object with its fields as members, in order, each under a name of its own. -/
theorem takeRecord_reads {room : Nat} (hroom : 0 < room) {expected : String} {f : Fields α}
    {ms : List (String × Tree)} {a : α} (h : f.Holds ms a) (hd : (ms.map (·.1)).Nodup) :
    Reads (takeRecord room expected f) (.object ms) a where
  exact := trivial
  scans ly d w r hw hr := by
    have members : ReadsMembers (do f.close (← f.ofMembers ((← rest).length + 1) true f.unread)) ms a := by
      intro ly d gap r hg
      have rounds := length_le_members ly d true ms (gap ++ 0x7d :: r)
      rw [bind_of_ok (rest_eq _), bind_of_ok ((h.fills hd).scans true ly d hg r rounds)]
      exact f.close_filled a _
    obtain ⟨bs, hbs, hbody⟩ := enclosed_members hroom members ly d r
    unfold takeRecord
    rw [hbs, bind_of_ok (firstByte_cons hw (by decide) _)]
    exact hbody

/-! ## Variants -/

section Variants

variable {room : Nat} {names : List String} {body : Nat → Content → Scanner α} {name : String} {i : Nat} {a : α}

/-- the name of a variant gives its number -/
theorem takeVariantName_scans (hi : names.findIdx? (· == name) = some i) {w : Bytes} (hw : Blanks w) (r : Bytes) :
    takeVariantName names (w ++ (Text.utf8 (text name) ++ r)) = (.ok i, r) := by
  refine takeTextAs_scans (fun r => ?_) hw r
  rw [hi]
  rfl

/-- **Variants.** A variant without content is read from its name. -/
theorem takeVariant_reads_alone (hi : names.findIdx? (· == name) = some i)
    (h : ∀ r, body i .alone r = (.ok a, r)) : Reads (takeVariant room names body) (.text name) a where
  exact := trivial
  scans ly d w r hw hr := by
    have scanned := takeVariantName_scans hi blanks_nil r
    rw [List.nil_append] at scanned
    rw [Tree.render]
    rw [utf8_text, List.cons_append] at scanned ⊢
    unfold takeVariant
    rw [bind_of_ok (firstByte_cons hw (by decide) _)]
    show (takeVariantName names >>= _) _ = _
    rw [bind_of_ok scanned]
    exact h r

/-- a variant with content is read from an object with its name as the only key, where there is room for it -/
theorem takeVariant_reads_keyed {t : Tree} (hd : (Tree.object [(name, t)]).depth ≤ room)
    (hi : names.findIdx? (· == name) = some i) (h : t.depth ≤ room - 1 → Reads (body i (.keyed (room - 1))) t a) :
    Reads (takeVariant room names body) (.object [(name, t)]) a where
  exact := trivial
  scans ly d w r hw hr := by
    obtain ⟨hroom, hm⟩ := Tree.depth_object_le_iff.1 hd
    obtain ⟨gap, hg, hbytes⟩ := utf8_object ly d [(name, t)]
    have ends : Ends (gap ++ 0x7d :: r) := ends_gap hg (by decide)
    obtain ⟨bs, hcolon, hvalue⟩ := memberValue_scans (h (hm _ List.mem_cons_self)) ly (d + 1) ends
    have member : sequence (Text.utf8 (ly.lineBreak (d + 1))) true (memberBytes ly (d + 1) [(name, t)]) ++
        (gap ++ 0x7d :: r) = Text.utf8 (ly.lineBreak (d + 1)) ++ (Text.utf8 (text name) ++
          (Text.utf8 ly.colon ++ (Text.utf8 (t.render ly (d + 1)) ++ (gap ++ 0x7d :: r)))) := by
      rw [memberBytes, List.map_singleton, sequence, sequence, utf8_append, utf8_append]
      simp only [if_true, List.nil_append, List.append_assoc]
    have closing : peekToken (gap ++ 0x7d :: r) = (.ok (some 0x7d), 0x7d :: r) :=
      peekToken_next hg (by decide) r
    unfold takeVariant
    rw [hbytes r, member, bind_of_ok (firstByte_cons hw (by decide) _)]
    show (if room = 0 then (_ : Scanner α) else _) _ = _
    rw [if_neg (Nat.pos_iff_ne_zero.1 hroom)]
    show (eat >>= _) _ = _
    rw [bind_of_ok (eat_cons _ _), bind_of_ok (takeVariantName_scans hi (blanks_lineBreak ly (d + 1)) _),
      bind_of_ok hcolon, bind_of_ok hvalue, bind_of_ok closing]
    rfl

end Variants

end Loopback.Json
