/-
Block names and the URL lists that they are read from.

A URL list is trimmed once, then its trailing slashes go, then its last segment is taken. So the name that is read has no
slash and no colon at its end, but blanks next to a slash of the list become part of it.
- `EndsInSegment`: characters end in a segment, with nothing but slashes behind it;
- `blockName?_eq_some_iff`: the names that a URL list gives, told without reading it;
- `blockName?_append`: a URL list that ends with a slash and a name, then slashes, then blanks, names that block;
- `blockName_fixed_iff`: a name that was read is read back exactly when it has no blanks around it, and a name that has some
  comes from a list with a blank next to a slash;
- `blockName_unstable`: names that are not read back.
-/
import Mathlib.Data.List.Basic
import Mathlib.Data.List.TakeWhile
import Loopback.Proofs.EntryName

namespace Loopback

/-! ## Ends of lists -/

namespace Text

theorem dropEndWhile_append {α : Type} {p : α → Bool} {l r : List α} (h : ∀ a ∈ r, p a = true) :
    dropEndWhile p (l ++ r) = dropEndWhile p l := by
  have gone : ∀ a ∈ r.reverse, p a = true := fun a ha => h a (List.mem_reverse.1 ha)
  rw [dropEndWhile, dropEndWhile, List.reverse_append, List.dropWhile_append_of_pos gone]

/-- a run at the end is dropped up to a character that stays -/
theorem dropEndWhile_append_of_getLast? {α : Type} {p : α → Bool} {l r : List α} (h : ∀ a ∈ r, p a = true)
    (hl : ∀ a ∈ l.getLast?, p a = false) : dropEndWhile p (l ++ r) = l := by
  rw [dropEndWhile_append h, dropEndWhile_eq_self_iff.2 hl]

/-- dropping a run in front of an element that stays leaves that element and what follows -/
theorem exists_dropWhile_append {α : Type} {p : α → Bool} (l : List α) {a : α} (r : List α) (h : p a = false) :
    ∃ l', (l ++ a :: r).dropWhile p = l' ++ a :: r := by
  induction l with
  | nil =>
    have stays : ¬p a = true := by simp [h]
    exact ⟨[], List.dropWhile_cons_of_neg stays⟩
  | cons b l ih =>
    by_cases hb : p b = true
    · obtain ⟨l', hl⟩ := ih
      refine ⟨l', ?_⟩
      rw [← hl]
      exact List.dropWhile_cons_of_pos hb
    · exact ⟨b :: l, List.dropWhile_cons_of_neg hb⟩

theorem mem_getLast?_append {α : Type} {l r : List α} {a : α} (h : a ∈ (l ++ r).getLast?) :
    a ∈ r.getLast? ∨ r = [] ∧ a ∈ l.getLast? := by
  rw [List.getLast?_append] at h
  cases hr : r.getLast? with
  | none =>
    rw [hr] at h
    exact .inr ⟨List.getLast?_eq_none_iff.1 hr, h⟩
  | some b =>
    rw [hr] at h
    exact .inl h

/-- a run of one element at the end of a list is that element, repeated -/
theorem exists_dropEndWhile_append_replicate {α : Type} [BEq α] [LawfulBEq α] (a : α) (l : List α) :
    ∃ n, l = dropEndWhile (· == a) l ++ List.replicate n a := by
  have run : l.reverse.takeWhile (· == a) = List.replicate (l.reverse.takeWhile (· == a)).length a := by
    rw [List.eq_replicate_iff]
    refine ⟨rfl, fun b hb => ?_⟩
    have kept := List.all_eq_true.1 List.all_takeWhile b hb
    exact eq_of_beq kept
  refine ⟨(l.reverse.takeWhile (· == a)).length, ?_⟩
  calc
    l = l.reverse.reverse := l.reverse_reverse.symm
    _ = (l.reverse.takeWhile (· == a) ++ l.reverse.dropWhile (· == a)).reverse := by
      rw [List.takeWhile_append_dropWhile]
    _ = dropEndWhile (· == a) l ++ (l.reverse.takeWhile (· == a)).reverse := List.reverse_append
    _ = dropEndWhile (· == a) l ++ List.replicate (l.reverse.takeWhile (· == a)).length a := by
      rw [run, List.reverse_replicate, List.length_replicate]

theorem trimChars_infix (l : List Char) : trimChars l <:+: l := by
  have front := dropEndWhile_prefix isBlank (l.dropWhile isBlank)
  exact front.isInfix.trans (List.dropWhile_suffix isBlank).isInfix

/-- trimming keeps a character that is not blank and what stands between it and the blanks at the end -/
theorem exists_trimChars_append (l : List Char) {c : Char} (r : List Char) {blanks : List Char} (hc : isBlank c = false)
    (hr : ∀ d ∈ r.getLast?, isBlank d = false) (hblanks : ∀ d ∈ blanks, isBlank d = true) :
    ∃ l', trimChars (l ++ c :: (r ++ blanks)) = l' ++ c :: r := by
  obtain ⟨l', hl⟩ := exists_dropWhile_append l (r ++ blanks) hc
  refine ⟨l', ?_⟩
  rw [trimChars, hl, ← List.cons_append, ← List.append_assoc]
  apply dropEndWhile_append_of_getLast? hblanks
  intro d hd
  rcases mem_getLast?_append hd with hd | ⟨h, -⟩
  · cases r with
    | nil =>
      cases hd
      exact hc
    | cons b r => exact hr d (by simpa [List.getLast?_cons_cons] using hd)
  · cases h

end Text

/-! ## Segments -/

namespace Properties

theorem slash_not_mem_lastSegment (l : List Char) : '/' ∉ lastSegment l := by
  intro h
  have kept := List.all_eq_true.1 (List.all_takeWhile (p := (· != '/')) (l := l.reverse)) '/' (List.mem_reverse.1 h)
  exact absurd kept (by decide)

theorem lastSegment_append {l r : List Char} (h : '/' ∉ r) : lastSegment (l ++ '/' :: r) = r := by
  have turned : (l ++ '/' :: r).reverse = r.reverse ++ '/' :: l.reverse := by simp
  rw [lastSegment, turned, takeWhile_ne_slash (by simpa using h), List.reverse_reverse]

/-- the block that a URL list names has no slash in its name -/
theorem slash_not_mem_of_blockName? {urls block : String} (h : blockName? urls = some block) :
    '/' ∉ block.toList := by
  unfold blockName? at h
  dsimp only at h
  split at h
  · cases h
  · rw [← Option.some.inj h, segmentOf, String.toList_ofList]
    exact slash_not_mem_lastSegment _

/-- characters end in a segment: a slash, or nothing, stands before it, and only slashes stand behind it -/
def EndsInSegment (l segment : List Char) : Prop :=
  ∃ front slashes, l = front ++ segment ++ List.replicate slashes '/' ∧ ∀ c ∈ front.getLast?, c = '/'

/-- the last segment stands at the end, behind a slash or alone -/
theorem exists_append_lastSegment (l : List Char) :
    ∃ front, l = front ++ lastSegment l ∧ ∀ c ∈ front.getLast?, c = '/' := by
  refine ⟨(l.reverse.dropWhile (· != '/')).reverse, ?_, ?_⟩
  · rw [lastSegment, ← List.reverse_append, List.takeWhile_append_dropWhile, List.reverse_reverse]
  · intro c hc
    rw [List.getLast?_reverse] at hc
    simpa using Text.head?_dropWhile (· != '/') l.reverse c hc

/-- a segment without a slash is the last one where the front ends with a slash, or is empty -/
theorem lastSegment_append_of_getLast? {front segment : List Char} (hslash : '/' ∉ segment)
    (hfront : ∀ c ∈ front.getLast?, c = '/') : lastSegment (front ++ segment) = segment := by
  rcases List.eq_nil_or_concat front with rfl | ⟨l, c, rfl⟩
  · have word : ∀ d ∈ segment.reverse, (d != '/') = true := by
      intro d hd
      rw [bne_iff_ne]
      rintro rfl
      exact hslash (List.mem_reverse.1 hd)
    rw [List.nil_append, lastSegment, List.takeWhile_eq_self_iff.2 word, List.reverse_reverse]
  · obtain rfl : c = '/' := hfront c (by simp)
    rw [List.concat_append]
    exact lastSegment_append hslash

/-- **Segments.** Dropping slashes at the end and taking what stands behind the last slash gives the segment that the
characters end in. -/
theorem lastSegment_eq_iff {l segment : List Char} (hne : segment ≠ []) (hslash : '/' ∉ segment) :
    lastSegment (Text.dropEndWhile (· == '/') l) = segment ↔ EndsInSegment l segment := by
  constructor
  · rintro rfl
    obtain ⟨slashes, hl⟩ := Text.exists_dropEndWhile_append_replicate '/' l
    obtain ⟨front, hfront, ends⟩ := exists_append_lastSegment (Text.dropEndWhile (· == '/') l)
    refine ⟨front, slashes, ?_, ends⟩
    rw [← hfront]
    exact hl
  · rintro ⟨front, slashes, rfl, ends⟩
    have run : ∀ c ∈ List.replicate slashes '/', (c == '/') = true := by
      intro c hc
      rw [List.eq_of_mem_replicate hc]
      rfl
    have stops : ∀ c ∈ (front ++ segment).getLast?, (c == '/') = false := by
      intro c hc
      rcases Text.mem_getLast?_append hc with hc | ⟨h, -⟩
      · rw [beq_eq_false_iff_ne]
        rintro rfl
        exact hslash (List.mem_of_getLast? hc)
      · exact absurd h hne
    rw [Text.dropEndWhile_append_of_getLast? run stops, lastSegment_append_of_getLast? hslash ends]

/-! ## Names -/

theorem blockName_eq_ok_iff {urls name : String} : blockName urls = .ok name ↔ blockName? urls = some name := by
  unfold blockName
  cases blockName? urls <;> simp

/-- **Names of a list.** A URL list gives the segment that it ends in once it is trimmed, if that is no scheme. -/
theorem blockName?_eq_some_iff {urls name : String} :
    blockName? urls = some name ↔ name ≠ "" ∧ '/' ∉ name.toList ∧ name.toList.getLast? ≠ some ':' ∧
      EndsInSegment (Text.trimChars urls.toList) name.toList := by
  constructor
  · intro h
    have hslash := slash_not_mem_of_blockName? h
    unfold blockName? at h
    dsimp only at h
    split at h
    · cases h
    · next hname =>
      obtain ⟨hne, hcolon⟩ := not_or.1 hname
      rw [Option.some.inj h] at hne hcolon
      have named : name.toList ≠ [] := fun empty => hne (String.toList_inj.1 empty)
      refine ⟨hne, hslash, hcolon, (lastSegment_eq_iff named hslash).1 ?_⟩
      rw [← Option.some.inj h, segmentOf, String.toList_ofList]
  · rintro ⟨hne, hslash, hcolon, ends⟩
    have named : name.toList ≠ [] := fun empty => hne (String.toList_inj.1 empty)
    have segment : segmentOf urls = name := by
      rw [segmentOf, (lastSegment_eq_iff named hslash).2 ends, String.ofList_toList]
    unfold blockName?
    dsimp only
    rw [segment, if_neg (not_or.2 ⟨hne, hcolon⟩)]

/-- a URL list that ends with a slash and a name without a blank at its end, then any slashes, then any blanks, gives
that name -/
theorem blockName?_append_of_getLast? (front : String) {name : String} (slashes : Nat) {blanks : String} (hne : name ≠ "")
    (hslash : '/' ∉ name.toList) (hlast : ∀ c ∈ name.toList.getLast?, Text.isBlank c = false)
    (hcolon : name.toList.getLast? ≠ some ':') (hblanks : ∀ c ∈ blanks.toList, Text.isBlank c = true) :
    blockName? (front ++ "/" ++ name ++ String.ofList (List.replicate slashes '/') ++ blanks) = some name := by
  have chars : (front ++ "/" ++ name ++ String.ofList (List.replicate slashes '/') ++ blanks).toList =
      front.toList ++ '/' :: (name.toList ++ List.replicate slashes '/' ++ blanks.toList) := by
    simp
  have stops : ∀ c ∈ (name.toList ++ List.replicate slashes '/').getLast?, Text.isBlank c = false := by
    intro c hc
    rcases Text.mem_getLast?_append hc with hc | ⟨-, hc⟩
    · rw [List.eq_of_mem_replicate (List.mem_of_getLast? hc)]
      decide
    · exact hlast c hc
  have slash : Text.isBlank '/' = false := by decide
  obtain ⟨l, hl⟩ := Text.exists_trimChars_append front.toList _ slash stops hblanks
  refine blockName?_eq_some_iff.2 ⟨hne, hslash, hcolon, l ++ ['/'], slashes, ?_, by simp⟩
  rw [chars, hl]
  simp

/-- **Naming a target.** A URL list that ends with a slash and a name, then any slashes, then any blanks, names that
block: the name has no slash, no blanks around it and no colon at its end. -/
theorem blockName?_append (front : String) {block : String} (slashes : Nat) {blanks : String}
    (hne : block ≠ "") (hslash : '/' ∉ block.toList) (htrim : Text.trim block = block)
    (hcolon : block.toList.getLast? ≠ some ':') (hblanks : ∀ c ∈ blanks.toList, Text.isBlank c = true) :
    blockName? (front ++ "/" ++ block ++ String.ofList (List.replicate slashes '/') ++ blanks) = some block :=
  blockName?_append_of_getLast? front slashes hne hslash (Text.trim_eq_self_iff.1 htrim).2 hcolon hblanks

section Names

variable {urls name : String}

/-- characters that end in all of themselves, once they are trimmed, are trimmed -/
theorem endsInSegment_self_iff {l : List Char} : EndsInSegment (Text.trimChars l) l ↔ Text.trimChars l = l := by
  constructor
  · rintro ⟨front, slashes, h, -⟩
    have whole : l <:+: Text.trimChars l := ⟨front, List.replicate slashes '/', h.symm⟩
    have part := Text.trimChars_infix l
    exact part.eq_of_length (Nat.le_antisymm part.length_le whole.length_le)
  · intro h
    rw [h]
    exact ⟨[], 0, by simp, by simp⟩

/-- a name that was read is read again exactly when it has no blanks around it -/
theorem blockName?_self_iff (h : blockName? urls = some name) : blockName? name = some name ↔ Text.trim name = name := by
  obtain ⟨hne, hslash, hcolon, -⟩ := blockName?_eq_some_iff.1 h
  rw [blockName?_eq_some_iff, endsInSegment_self_iff, Text.trim]
  constructor
  · rintro ⟨-, -, -, trimmed⟩
    rw [trimmed, String.ofList_toList]
  · intro trimmed
    exact ⟨hne, hslash, hcolon, by simpa using congrArg String.toList trimmed⟩

/-- characters that end in all but a slash of themselves, once they are trimmed, have no blank at their end -/
theorem getLast?_of_endsInSegment {segment : List Char} (hne : segment ≠ []) (hslash : '/' ∉ segment)
    (h : EndsInSegment (Text.trimChars ('/' :: segment)) segment) :
    ∀ c ∈ segment.getLast?, Text.isBlank c = false := by
  obtain ⟨front, slashes, hends, -⟩ := h
  have part := Text.trimChars_infix ('/' :: segment)
  intro c hc
  cases slashes with
  | zero =>
    -- the segment stands at the end of what was trimmed
    have last : c ∈ (Text.trimChars ('/' :: segment)).getLast? := by
      rw [hends, List.replicate_zero, List.append_nil, List.getLast?_append_of_ne_nil _ hne]
      exact hc
    exact (Text.trimChars_eq_self_iff.1 (Text.trimChars_idem _)).2 c last
  | succ slashes =>
    -- a slash behind the segment would make it longer than it is, or put the slash into it
    have long := part.length_le
    simp only [hends, List.length_append, List.length_replicate, List.length_cons] at long
    have alone : front = [] := List.eq_nil_of_length_eq_zero (by omega)
    obtain rfl : slashes = 0 := by omega
    subst alone
    have whole : segment ++ ['/'] = '/' :: segment := by
      simpa using hends.symm.trans (part.eq_of_length (by simp [hends]))
    obtain ⟨d, r, rfl⟩ := List.exists_cons_of_ne_nil hne
    obtain ⟨rfl, -⟩ := List.cons.inj whole
    exact absurd List.mem_cons_self hslash

/-- a name that was read is read behind any front exactly when it has no blank at its end -/
theorem blockName?_append_iff (h : blockName? urls = some name) :
    (∀ front, blockName? (front ++ "/" ++ name) = some name) ↔ ∀ c ∈ name.toList.getLast?, Text.isBlank c = false := by
  obtain ⟨hne, hslash, hcolon, -⟩ := blockName?_eq_some_iff.1 h
  constructor
  · intro read
    have named : name.toList ≠ [] := fun empty => hne (String.toList_inj.1 empty)
    have chars : ("" ++ "/" ++ name).toList = '/' :: name.toList := by simp
    obtain ⟨-, -, -, ends⟩ := blockName?_eq_some_iff.1 (read "")
    rw [chars] at ends
    exact getLast?_of_endsInSegment named hslash ends
  · intro hlast front
    have none : ∀ c ∈ "".toList, Text.isBlank c = true := by simp
    simpa using blockName?_append_of_getLast? front 0 hne hslash hlast hcolon none

/-! ## Blanks -/

/-- a blank stands next to a slash -/
def BlankBySlash (l : List Char) : Prop :=
  ∃ c, Text.isBlank c = true ∧ (['/', c] <:+: l ∨ [c, '/'] <:+: l)

/-- a name that was read has no blanks around it, or a blank stands next to a slash of the list -/
theorem trim_eq_self_or_blankBySlash (h : blockName? urls = some name) :
    Text.trim name = name ∨ BlankBySlash (Text.trim urls).toList := by
  obtain ⟨hne, -, -, front, slashes, hends, hfront⟩ := blockName?_eq_some_iff.1 h
  have trimmed := Text.trimChars_eq_self_iff.1 (Text.trimChars_idem urls.toList)
  rw [Text.trim_eq_self_iff, Text.trim, String.toList_ofList, hends, or_iff_not_imp_right]
  rw [hends] at trimmed
  intro apart
  constructor
  · intro c hc
    by_contra hblank
    obtain ⟨r, hr⟩ := List.head?_eq_some_iff.1 hc
    rcases List.eq_nil_or_concat front with rfl | ⟨l, d, rfl⟩
    · exact hblank (trimmed.1 c (by simp [hr]))
    · obtain rfl : d = '/' := hfront d (by simp)
      refine apart ⟨c, by simpa using hblank, .inl ⟨l, r ++ List.replicate slashes '/', ?_⟩⟩
      simp [hr]
  · intro c hc
    by_contra hblank
    obtain ⟨r, hr⟩ := List.getLast?_eq_some_iff.1 hc
    cases slashes with
    | zero => exact hblank (trimmed.2 c (by simp [hr]))
    | succ slashes =>
      refine apart ⟨c, by simpa using hblank, .inr ⟨front ++ r, List.replicate slashes '/', ?_⟩⟩
      simp [hr, List.replicate_succ]

end Names

/-- **Block names.** A name that is read from a URL list is not empty, has no slash and no colon at its end. It is read
again exactly when it has no blanks around it, and behind any front and a slash exactly when it has no blank at its end.
If it has blanks around it, then a blank stands next to a slash of the list, between the blanks at its ends. -/
theorem blockName_fixed_iff {urls name : String} (h : blockName urls = .ok name) :
    name ≠ "" ∧ '/' ∉ name.toList ∧ name.toList.getLast? ≠ some ':' ∧
      (blockName name = .ok name ↔ Text.trim name = name) ∧
      ((∀ front, blockName (front ++ "/" ++ name) = .ok name) ↔
        ∀ c ∈ name.toList.getLast?, Text.isBlank c = false) ∧
      (Text.trim name = name ∨ BlankBySlash (Text.trim urls).toList) := by
  simp only [blockName_eq_ok_iff] at h ⊢
  obtain ⟨hne, hslash, hcolon, -⟩ := blockName?_eq_some_iff.1 h
  exact ⟨hne, hslash, hcolon, blockName?_self_iff h, blockName?_append_iff h, trim_eq_self_or_blankBySlash h⟩

theorem blockName_fixed_iff_core :
    blockName "\u00a0http://localhost:8080/app core// " = .ok "app core" ∧ blockName "app core" = .ok "app core" ∧
      blockName ("x: / y" ++ "/" ++ "app core") = .ok "app core" := by
  have h : blockName "\u00a0http://localhost:8080/app core// " = .ok "app core" := blockName_eq_ok_iff.2 (by decide)
  have last : "app core".toList.getLast? = some 'e' := by decide
  obtain ⟨-, -, -, again, behind, -⟩ := blockName_fixed_iff h
  refine ⟨h, again.2 (by decide), behind.2 (fun c hc => ?_) "x: / y"⟩
  obtain rfl : 'e' = c := Option.some.inj (last.symm.trans hc)
  decide

/-- **Unstable names.** A blank before the slashes at the end of a list, or behind its last slash but these, becomes part of
the name, which is then read as another one, or as none. -/
theorem blockName_unstable :
    blockName "http://localhost:8080/core /" = .ok "core " ∧ Text.trim "core " ≠ "core " ∧
      blockName "core " = .ok "core" ∧ blockName ("http://localhost:8080" ++ "/" ++ "core ") = .ok "core" ∧
      blockName "http://localhost:8080/ core" = .ok " core" ∧ blockName " core" = .ok "core" ∧
      blockName "http:// /" = .ok " " ∧ blockName? " " = none := by
  simp only [blockName_eq_ok_iff]
  decide

end Properties

end Loopback
