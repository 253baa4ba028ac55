/-
The JSON documents of values.

A `Tree` is a document without its layout. `Tree.render` lays it out, and `Tree.ofDatum` is the document of what a value
is made of: records and maps are objects, lists and tuples are arrays, a variant is its name or an object with its name
as the only key, what is absent is `null` and what is present stands for itself.
- `writeAt_eq`, `writeAt_eq_error`: the text of a value at a depth is the layout of its document, if it has one;
- `write_eq_ok_iff`: the text written for a value is the layout of its document;
- `write_eq_error_iff`: a value is not written exactly when it contains one that has no document.
-/
import Loopback.Json.Writer
import Loopback.Proofs.Datum

namespace Loopback.Json

open Sample

/-! ## Documents -/

/-- a document -/
inductive Tree where
  | null
  | flag (b : Bool)
  | integer (i : Int)
  /-- a number that is no integer, by its text -/
  | decimal (text : String)
  | text (s : String)
  | array (items : List Tree)
  | object (members : List (String × Tree))

namespace Tree

mutual

/-- the text of a document whose delimiters are at a depth -/
def render (ly : Layout) (d : Nat) : Tree → String
  | null => "null"
  | flag b => if b then "true" else "false"
  | integer i => Json.integer i
  | decimal s => s
  | text s => Json.text s
  | array items => ly.array d (renderItems ly (d + 1) items)
  | object members => ly.object d (renderMembers ly (d + 1) members)

def renderItems (ly : Layout) (d : Nat) : List Tree → List String
  | [] => []
  | t :: r => t.render ly d :: renderItems ly d r

def renderMembers (ly : Layout) (d : Nat) : List (String × Tree) → List (String × String)
  | [] => []
  | (k, t) :: r => (k, t.render ly d) :: renderMembers ly d r

end

@[simp] theorem renderItems_eq (ly : Layout) (d : Nat) (l : List Tree) : renderItems ly d l = l.map (render ly d) := by
  induction l with
  | nil => rfl
  | cons t r ih => rw [renderItems, ih, List.map_cons]

@[simp] theorem renderMembers_eq (ly : Layout) (d : Nat) (l : List (String × Tree)) :
    renderMembers ly d l = l.map fun m => (m.1, m.2.render ly d) := by
  induction l with
  | nil => rfl
  | cons m r ih => rw [renderMembers, ih, List.map_cons]

mutual

/-- how deep lists and objects nest -/
def depth : Tree → Nat
  | array items => depthItems items + 1
  | object members => depthMembers members + 1
  | _ => 0

def depthItems : List Tree → Nat
  | [] => 0
  | t :: r => max t.depth (depthItems r)

def depthMembers : List (String × Tree) → Nat
  | [] => 0
  | (_, t) :: r => max t.depth (depthMembers r)

end

theorem depthItems_le_iff {l : List Tree} {n : Nat} : depthItems l ≤ n ↔ ∀ t ∈ l, t.depth ≤ n := by
  induction l with
  | nil => simp [depthItems]
  | cons t r ih => rw [depthItems, Nat.max_le, ih, List.forall_mem_cons]

theorem depthMembers_le_iff {l : List (String × Tree)} {n : Nat} : depthMembers l ≤ n ↔ ∀ m ∈ l, m.2.depth ≤ n := by
  induction l with
  | nil => simp [depthMembers]
  | cons m r ih => rw [depthMembers, Nat.max_le, ih, List.forall_mem_cons]

/-- a list nests as deep as `room` when there is room for it and for its items one level deeper -/
theorem depth_array_le_iff {l : List Tree} {room : Nat} :
    (array l).depth ≤ room ↔ 0 < room ∧ ∀ t ∈ l, t.depth ≤ room - 1 := by
  rw [depth, ← depthItems_le_iff]
  omega

theorem depth_object_le_iff {l : List (String × Tree)} {room : Nat} :
    (object l).depth ≤ room ↔ 0 < room ∧ ∀ m ∈ l, m.2.depth ≤ room - 1 := by
  rw [depth, ← depthMembers_le_iff]
  omega

/-! ## The documents of data -/

/-- a floating-point number, or `null` when it is not finite -/
def ofFloat (f : Shortest.Format) (bits : Nat) : Tree :=
  match Shortest.text? f bits with
  | some s => decimal s
  | none => null

mutual

/-- the document of data; what has none stands as `null`, and a key that is no text as the empty one -/
def ofDatum : Datum → Tree
  | .natural _ n => integer n
  | .integer _ i => integer i
  | .flag b => flag b
  | .char c => text c.toString
  | .single bits => ofFloat Shortest.single bits.toNat
  | .double bits => ofFloat Shortest.double bits.toNat
  | .unit => null
  | .text s => text s
  | .absent => null
  | .present d => ofDatum d
  | .list l => array (ofItems l)
  | .stream l => array (ofItems l)
  | .map l => object (ofEntries l)
  | .tuple l => array (ofItems l)
  | .record l => object (ofFields l)
  | .label _ name => text name
  | .variant _ name d => object [(name, ofDatum d)]
  | .hidden => null

def ofItems : List Datum → List Tree
  | [] => []
  | d :: r => ofDatum d :: ofItems r

def ofEntries : List (Datum × Datum) → List (String × Tree)
  | [] => []
  | (.text k, d) :: r => (k, ofDatum d) :: ofEntries r
  | (_, d) :: r => ("", ofDatum d) :: ofEntries r

def ofFields : List (String × Datum) → List (String × Tree)
  | [] => []
  | (k, d) :: r => (k, ofDatum d) :: ofFields r

end

variable {α : Type}

theorem ofItems_map (g : α → Datum) (l : List α) : ofItems (l.map g) = l.map fun a => ofDatum (g a) := by
  induction l with
  | nil => rfl
  | cons a r ih => rw [List.map_cons, ofItems, ih, List.map_cons]

theorem ofEntries_map (k : α → String) (g : α → Datum) (l : List α) :
    ofEntries (l.map fun a => (.text (k a), g a)) = l.map fun a => (k a, ofDatum (g a)) := by
  induction l with
  | nil => rfl
  | cons a r ih => rw [List.map_cons, ofEntries, ih, List.map_cons]

theorem ofFields_append (l r : List (String × Datum)) : ofFields (l ++ r) = ofFields l ++ ofFields r := by
  induction l with
  | nil => rfl
  | cons f l ih => rw [List.cons_append, ofFields, ih, ofFields, List.cons_append]

end Tree

/-- the document of a value -/
def document (t : Ty) (v : t.Val) : Tree := .ofDatum (t.datum v)

/-! ## What is written -/

section Written

variable (ly : Layout)

theorem render_list {α : Type} (d : Nat) {g : α → Datum} {f : Nat → α → String}
    (h : ∀ d a, (Tree.ofDatum (g a)).render ly d = f d a) (l : List α) :
    (Tree.ofDatum (.list (l.map g))).render ly d = ly.list d f l := by
  rw [Tree.ofDatum, Tree.ofItems_map, Tree.render, Tree.renderItems_eq, List.map_map, Layout.list]
  congr 1
  exact List.map_congr_left fun a _ => h (d + 1) a

theorem render_optional {α : Type} (d : Nat) {g : α → Datum} {f : α → String}
    (h : ∀ a, (Tree.ofDatum (g a)).render ly d = f a) (o : Option α) :
    (Tree.ofDatum (.optional g o)).render ly d = option f o := by
  cases o with
  | none => rfl
  | some a => exact h a

theorem render_texts (d : Nat) (l : List String) :
    (Tree.ofDatum (.ofTexts l)).render ly d = ly.list d (fun _ s => text s) l :=
  render_list ly d (fun _ _ => rfl) l

theorem render_bytes (d : Nat) (bs : Bytes) : (Tree.ofDatum (.ofBytes bs)).render ly d = bytes ly d bs :=
  render_list ly d (fun _ _ => rfl) bs

theorem render_limits (d : Nat) (m : Dict String UInt32) :
    (Tree.ofDatum (.ofLimits m)).render ly d = limits ly d m := by
  unfold Datum.ofLimits
  rw [Tree.ofDatum, Tree.ofEntries_map, Tree.render, Tree.renderMembers_eq, List.map_map]
  rfl

theorem render_own (d : Nat) (h : Holding) :
    Tree.renderMembers ly (d + 1) (Tree.ofFields (Datum.ofAccount.own h)) = account.own ly d h := by
  simp only [Datum.ofAccount.own, Tree.ofFields, Tree.renderMembers, render_texts, render_limits]
  rfl

theorem render_account (d : Nat) (h : Holding) (l : List Holding) :
    (Tree.ofDatum (.ofAccount h l)).render ly d = account ly d h l := by
  induction l generalizing d h with
  | nil =>
    rw [Datum.ofAccount, Tree.ofDatum, Tree.ofFields_append, Tree.render, Tree.renderMembers_eq, List.map_append,
      ← Tree.renderMembers_eq, render_own]
    rfl
  | cons p l ih =>
    rw [Datum.ofAccount, Tree.ofDatum, Tree.ofFields_append, Tree.render, Tree.renderMembers_eq, List.map_append,
      ← Tree.renderMembers_eq, render_own, account, ← ih]
    rfl

theorem render_shape (d : Nat) (s : Shape) : (Tree.ofDatum (.ofShape s)).render ly d = shape ly d s := by
  cases s with
  | named name sides => cases sides <;> rfl
  | _ => rfl

theorem render_links (d : Nat) (l : Link) (r : List Link) :
    (Tree.ofDatum (.ofLinks l r)).render ly d = links ly d l r := by
  induction r generalizing d l with
  | nil => rfl
  | cons s r ih =>
    rw [links, ← ih]
    rfl

theorem render_capturedFailure (d : Nat) (f : CapturedFailure) :
    (Tree.ofDatum (.ofCapturedFailure f)).render ly d = capturedFailure ly d f := render_links ly d f.head f.sources

theorem render_remoteCause (d : Nat) (c : RemoteCause) :
    (Tree.ofDatum (.ofRemoteCause c)).render ly d = remoteCause ly d c := by
  rw [remoteCause, ← render_optional ly (d + 1) (render_bytes ly (d + 1))]
  rfl

theorem render_remoteFailure (d : Nat) (f : RemoteFailure) :
    (Tree.ofDatum (.ofRemoteFailure f)).render ly d = remoteFailure ly d f := by
  rw [remoteFailure, ← render_list ly (d + 1) (render_remoteCause ly)]
  rfl

theorem render_variant (d i : Nat) (name : String) {dt : Datum} {content : Nat → String}
    (h : ∀ d, (Tree.ofDatum dt).render ly d = content d) :
    (Tree.ofDatum (.variant i name dt)).render ly d = ly.variant d name content := by
  rw [Layout.variant, ← h]
  rfl

theorem render_invocationError (d : Nat) (e : InvocationError) :
    (Tree.ofDatum (.ofInvocationError e)).render ly d = invocationError ly d e := by
  cases e with
  | localAccess m cause =>
    rw [Datum.ofInvocationError, invocationError]
    refine render_variant ly d 1 "LocalServiceAccess" fun d => ?_
    rw [← render_optional ly (d + 1) (render_capturedFailure ly (d + 1))]
    rfl
  | remote f =>
    rw [Datum.ofInvocationError, invocationError]
    exact render_variant ly d 2 "Remote" fun d => render_remoteFailure ly d f
  | _ => rfl

theorem render_userError (d : Nat) {e : UserError} (h : e ≠ .secret) :
    userError ly d e = .ok ((Tree.ofDatum (.ofUserError e)).render ly d) := by
  cases e with
  | importFailed file source =>
    rw [Datum.ofUserError, userError]
    refine congrArg Except.ok (render_variant ly d 2 "Import" fun d => ?_).symm
    rw [← render_capturedFailure]
    rfl
  | invocation e =>
    rw [Datum.ofUserError, userError]
    exact congrArg Except.ok (render_variant ly d 3 "Invocation" fun d => render_invocationError ly d e).symm
  | secret => exact absurd rfl h
  | _ => rfl

theorem render_bufferError (d : Nat) (e : BufferError) :
    (Tree.ofDatum (.ofBufferError e)).render ly d = bufferError ly d e := by
  cases e with
  | missing => rfl
  | invocation e =>
    rw [Datum.ofBufferError, bufferError]
    exact render_variant ly d 1 "Invocation" fun d => render_invocationError ly d e

theorem render_calcError (d : Nat) (e : CalcError) :
    (Tree.ofDatum (.ofCalcError e)).render ly d = calcError ly d e := by
  cases e with
  | divisionByZero => rfl
  | invocation e =>
    rw [Datum.ofCalcError, calcError]
    exact render_variant ly d 1 "Invocation" fun d => render_invocationError ly d e

theorem render_float (d : Nat) (f : Shortest.Format) (bits : Nat) : (Tree.ofFloat f bits).render ly d = float f bits := by
  unfold Tree.ofFloat float
  cases Shortest.text? f bits <;> rfl

end Written

/-- a value of its own that has no text: a map with keys that are no texts, or the variant without an encoding -/
def Lacks : (t : Ty) → t.Val → Prop
  | .pairMap, m => m.entries.entries ≠ []
  | .userError, e => e = .secret
  | _, _ => False

section Values

variable {ly : Layout} {d : Nat} {t : Ty} {v : t.Val} {α β : Type}

theorem writeEach_eq_ok {f : α → Except WriteError β} {g : α → β} {l : List α} (h : ∀ a ∈ l, f a = .ok (g a)) :
    writeEach f l = .ok (l.map g) := by
  induction l with
  | nil => rfl
  | cons a l ih =>
    rw [writeEach, h a List.mem_cons_self, ih fun b hb => h b (List.mem_cons_of_mem _ hb)]
    rfl

theorem writeEach_eq_error {f : α → Except WriteError β} {l : List α} {a : α} {e : WriteError} (ha : a ∈ l)
    (h : f a = .error e) : ∃ e', writeEach f l = .error e' := by
  induction l with
  | nil => cases ha
  | cons b l ih =>
    unfold writeEach
    cases hb : f b with
    | error e' => exact ⟨e', rfl⟩
    | ok s =>
      rcases List.mem_cons.1 ha with rfl | ha
      · rw [h] at hb
        cases hb
      · obtain ⟨e', he'⟩ := ih ha
        rw [he']
        exact ⟨e', rfl⟩

/-- **The text of a value.** A value that contains none without a document is written as the layout of its document. -/
theorem writeAt_eq (h : ¬t.Contains Lacks v) : writeAt ly d t v = .ok ((document t v).render ly d) := by
  induction t generalizing d with
  | list t ih =>
    have items : writeEach (writeAt ly (d + 1) t) v = .ok (v.map fun a => (document t a).render ly (d + 1)) :=
      writeEach_eq_ok fun a ha => ih fun ha' => h ⟨a, ha, ha'⟩
    rw [writeAt, items, document, Ty.datum, Tree.ofDatum, Tree.ofItems_map, Tree.render, Tree.renderItems_eq, List.map_map]
    rfl
  | option t ih =>
    cases v with
    | none => rfl
    | some a => exact ih fun ha => h ⟨a, rfl, ha⟩
  | map t ih =>
    have members : writeEach (fun e => do return (e.1, ← writeAt ly (d + 1) t e.2)) v.entries =
        .ok (v.entries.map fun e => (e.1, (document t e.2).render ly (d + 1))) := by
      refine writeEach_eq_ok fun e he => ?_
      rw [ih fun he' => h ⟨e, he, he'⟩]
      rfl
    rw [writeAt, members, document, Ty.datum, Tree.ofDatum, Tree.ofEntries_map, Tree.render, Tree.renderMembers_eq,
      List.map_map]
    rfl
  | pair a b iha ihb =>
    obtain ⟨x, y⟩ := v
    rw [writeAt, iha fun h' => h (.inl h'), ihb fun h' => h (.inr h')]
    rfl
  | triple a b c iha ihb ihc =>
    obtain ⟨x, y, z⟩ := v
    rw [writeAt, iha fun h' => h (.inl h'), ihb fun h' => h (.inr (.inl h')), ihc fun h' => h (.inr (.inr h'))]
    rfl
  | bool => cases v <;> rfl
  | f32 => exact congrArg Except.ok (render_float ly d _ _).symm
  | f64 => exact congrArg Except.ok (render_float ly d _ _).symm
  | account => exact congrArg Except.ok (render_account ly d _ _).symm
  | shape => exact congrArg Except.ok (render_shape ly d v).symm
  | lazySeq =>
    rw [document, Ty.datum, Tree.ofDatum, Tree.ofItems_map, Tree.render, Tree.renderItems_eq, List.map_map]
    rfl
  | pairMap =>
    have empty : v.entries.entries = [] := not_not.1 h
    rw [writeAt, document, Ty.datum, empty, Dict.isEmpty, empty]
    rfl
  | userError => exact render_userError ly d h
  | bufferError => exact congrArg Except.ok (render_bufferError ly d v).symm
  | calcError => exact congrArg Except.ok (render_calcError ly d v).symm
  | capturedFailure => exact congrArg Except.ok (render_capturedFailure ly d v).symm
  | invocationError => exact congrArg Except.ok (render_invocationError ly d v).symm
  | remoteFailure => exact congrArg Except.ok (render_remoteFailure ly d v).symm
  | _ => rfl

/-- a value that contains one without a document is not written -/
theorem writeAt_eq_error (h : t.Contains Lacks v) : ∃ e, writeAt ly d t v = .error e := by
  induction t generalizing d with
  | list t ih =>
    obtain ⟨a, ha, h⟩ := h
    obtain ⟨e, he⟩ := ih h
    obtain ⟨e', he'⟩ := writeEach_eq_error ha he
    rw [writeAt, he']
    exact ⟨e', rfl⟩
  | option t ih =>
    obtain ⟨a, rfl, h⟩ := h
    exact ih h
  | map t ih =>
    obtain ⟨m, hm, h⟩ := h
    obtain ⟨e, he⟩ := ih h
    have member : (do return (m.1, ← writeAt ly (d + 1) t m.2) : Except WriteError _) = .error e := by
      rw [he]
      rfl
    obtain ⟨e', he'⟩ := writeEach_eq_error (f := fun m => do return (m.1, ← writeAt ly (d + 1) t m.2)) hm member
    rw [writeAt, he']
    exact ⟨e', rfl⟩
  | pair a b iha ihb =>
    obtain ⟨x, y⟩ := v
    rw [writeAt]
    rcases h with h | h
    · obtain ⟨e, he⟩ := iha h
      rw [he]
      exact ⟨e, rfl⟩
    · obtain ⟨e, he⟩ := ihb h
      rw [he]
      cases writeAt ly (d + 1) a x <;> exact ⟨_, rfl⟩
  | triple a b c iha ihb ihc =>
    obtain ⟨x, y, z⟩ := v
    rw [writeAt]
    rcases h with h | h | h
    · obtain ⟨e, he⟩ := iha h
      rw [he]
      exact ⟨e, rfl⟩
    · obtain ⟨e, he⟩ := ihb h
      rw [he]
      cases writeAt ly (d + 1) a x <;> exact ⟨_, rfl⟩
    · obtain ⟨e, he⟩ := ihc h
      rw [he]
      cases writeAt ly (d + 1) a x <;> cases writeAt ly (d + 1) b y <;> exact ⟨_, rfl⟩
  | pairMap =>
    have some_entry : v.entries.isEmpty = false := by
      rw [Dict.isEmpty, List.isEmpty_eq_false_iff]
      exact h
    rw [writeAt, some_entry]
    exact ⟨_, rfl⟩
  | userError =>
    have secret : v = UserError.secret := h
    rw [secret]
    exact ⟨_, rfl⟩
  | _ => exact absurd h id

/-- **What is written.** A text is written for a value exactly when it is the layout of its document, and the value
contains none without one. -/
theorem write_eq_ok_iff {s : String} :
    write ly t v = .ok s ↔ ¬t.Contains Lacks v ∧ (document t v).render ly 0 = s := by
  unfold write
  by_cases h : t.Contains Lacks v
  · have failed : ∃ e, writeAt ly 0 t v = .error e := writeAt_eq_error h
    obtain ⟨e, he⟩ := failed
    rw [he]
    constructor
    · intro written
      cases written
    · intro written
      exact absurd h written.1
  · rw [writeAt_eq h, Except.ok.injEq]
    exact (and_iff_right h).symm

/-- **What is not written.** A value is not written exactly when it contains one without a document; the layout does not
matter. -/
theorem write_eq_error_iff : (∃ e, write ly t v = .error e) ↔ t.Contains Lacks v := by
  unfold write
  constructor
  · rintro ⟨e, he⟩
    by_contra h
    rw [writeAt_eq h] at he
    cases he
  · exact writeAt_eq_error

end Values

end Loopback.Json
