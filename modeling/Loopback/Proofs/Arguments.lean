/-
Arguments on their way from the caller to the method.

The caller packs the argument of each parameter into a slot; the receiving side reads the slots in the same order. What
goes into a slot depends on the argument alone (`Passing.content`); a codec only decides the bytes.
- `marshal_keeps`: the caller appends one argument for each parameter, in order, or stops at an encoding that fails;
- `receive_eq_ok_iff`: the receiving side gets arguments exactly from a record that packs them.
-/
import Loopback.Proofs.Frame

namespace Loopback

variable {ι σ : Type}

/-! ## Contents of slots -/

/-- what an argument is on its way: a value to encode, a value by reference, or nothing -/
inductive Content where
  | encoded (t : Ty) (v : t.Val)
  | reference (b : BypassValue)
  | absent

/-- what the argument of a parameter is on its way -/
def Passing.content : (p : Passing) → p.Val → Content
  | .value t, v => .encoded t v
  | .optional t, some v => .encoded t v
  | .optional _, none => .absent
  | .reference t, v => .reference ⟨t, v⟩
  | .optionalReference t, some v => .reference ⟨t, v⟩
  | .optionalReference _, none => .absent

/-- what the arguments of parameters are on their way -/
def contents : (ps : List Param) → Args ps → List Content
  | [], _ => []
  | p :: ps, (v, vs) => p.passing.content v :: contents ps vs

/-- a slot holds a content, when `R` relates a value to its bytes -/
def Content.InSlot (R : (t : Ty) → t.Val → Bytes → Prop) : Content → Slot → Prop
  | .encoded t v, s => ∃ bs, R t v bs ∧ s = .payload bs
  | .reference b, s => s = .reference b
  | .absent, s => s = .null

/-- a list of arguments packs the arguments of parameters, under the names of their types -/
def Packed (R : (t : Ty) → t.Val → Bytes → Prop) : (ps : List Param) → Args ps → List Argument → Prop
  | [], _, l => l = []
  | p :: ps, (v, vs), l =>
    ∃ s r, l = ⟨p.passing.typeName, s⟩ :: r ∧ (p.passing.content v).InSlot R s ∧ Packed R ps vs r

/-- the codec encodes a value as bytes -/
def Codec.Encodes (c : Codec) (t : Ty) (v : t.Val) (bs : Bytes) : Prop := c.encode t v = .ok bs

/-- the codec decodes bytes to a value -/
def Codec.Decodes (c : Codec) (t : Ty) (v : t.Val) (bs : Bytes) : Prop := c.decode t bs = .ok v

variable {R S : (t : Ty) → t.Val → Bytes → Prop}

theorem Content.InSlot.mono {c : Content} {s : Slot} (h : c.InSlot R s)
    (hRS : ∀ t v bs, c = .encoded t v → R t v bs → S t v bs) : c.InSlot S s := by
  cases c with
  | encoded t v =>
    obtain ⟨bs, hR, rfl⟩ := h
    exact ⟨bs, hRS t v bs rfl hR, rfl⟩
  | reference b => exact h
  | absent => exact h

theorem Packed.mono {ps : List Param} {vs : Args ps} {l : List Argument} (h : Packed R ps vs l)
    (hRS : ∀ t v bs, .encoded t v ∈ contents ps vs → R t v bs → S t v bs) : Packed S ps vs l := by
  induction ps generalizing l with
  | nil => exact h
  | cons p ps ih =>
    obtain ⟨s, r, rfl, hs, hr⟩ := h
    refine ⟨s, r, rfl, hs.mono fun t v bs hc => hRS t v bs ?_, ih hr fun t v bs hc => hRS t v bs ?_⟩
    · rw [contents, hc]
      exact List.mem_cons_self
    · exact List.mem_cons_of_mem _ hc

theorem Packed.parameterTypes {ps : List Param} {vs : Args ps} {l : List Argument} (h : Packed R ps vs l) :
    l.map (·.typeName) = ps.map (·.passing.typeName) := by
  induction ps generalizing l with
  | nil =>
    have h : l = [] := h
    rw [h]
    rfl
  | cons p ps ih =>
    obtain ⟨s, r, rfl, -, hr⟩ := h
    rw [List.map_cons, List.map_cons, ih hr]

/-! ## The calling side -/

/-- an outcome of encoding a value: its bytes, or an error where `lossy` allows one -/
def Encoded (c : Codec) (lossy : Prop) (t : Ty) (v : t.Val) (r : Except CodecError Bytes) : Prop :=
  (∃ bs, c.Encodes t v bs ∧ r = .ok bs) ∨ lossy ∧ ∃ e, r = .error e

/-- no encoding of the value fails -/
def Codec.AlwaysEncodes (c : Codec) (t : Ty) (v : t.Val) : Prop :=
  (∃ bs, c.Encodes t v bs) ∧ ∀ s n, c.schedule = some s → s.fault n = none

theorem Codec.encode_cases (c : Codec) {lossy : Prop} {t : Ty} {v : t.Val} (h : lossy ∨ c.AlwaysEncodes t v) :
    Encoded c lossy t v (c.encode t v) := by
  cases hv : c.encode t v with
  | ok bs => exact .inl ⟨bs, hv, rfl⟩
  | error e =>
    rcases h with h | ⟨⟨bs, hbs⟩, -⟩
    · exact .inr ⟨h, e, rfl⟩
    · rw [Encodes, hv] at hbs
      cases hbs

/-- encoding a value on a state: a codec with a schedule turns its meter, and may refuse -/
theorem Codec.serialize_eq (c : Codec) (t : Ty) (v : t.Val) (w : World ι σ) :
    c.serialize t v w =
      match c.schedule with
      | none => (.ok (c.encode t v), w)
      | some s =>
        (.ok ((s.fault (w.meters.get s.meter)).elim (c.encode t v) .error),
          { w with meters := w.meters.set s.meter (w.meters.get s.meter + 1) }) := by
  unfold serialize
  cases c.schedule with
  | none => rfl
  | some s =>
    have found : (get : Act ι σ (World ι σ)) w = (.ok w, w) := rfl
    dsimp only
    rw [bind_of_ok found]
    cases s.fault (w.meters.get s.meter) <;> rfl

/-- **Encoding.** A codec gives the bytes of the value, or an error where it may fail; it only turns its meter. -/
theorem Codec.serialize_keeps (c : Codec) {lossy : Prop} {t : Ty} {v : t.Val} (h : lossy ∨ c.AlwaysEncodes t v) :
    (c.serialize t v : Act ι σ (Except CodecError Bytes)).Keeps (Encoded c lossy t v) := by
  intro w
  rw [c.serialize_eq]
  cases hs : c.schedule with
  | none => exact ⟨_, w, rfl, .refl w, c.encode_cases h⟩
  | some s =>
    refine ⟨_, _, rfl, ⟨fun _ => rfl, fun _ => rfl, rfl, rfl⟩, ?_⟩
    cases hn : s.fault (w.meters.get s.meter) with
    | none => exact c.encode_cases h
    | some e =>
      rcases h with h | ⟨-, h⟩
      · exact .inr ⟨h, e, rfl⟩
      · rw [h s _ hs] at hn
        cases hn

/-- the call with arguments appended to its record -/
def Call.append (c : Call ι) (l : List Argument) : Call ι :=
  { c with record := { c.record with arguments := c.record.arguments ++ l } }

/-- an outcome of packing arguments: they are appended to the record, or an encoding failed where `lossy` allows it -/
def Marshalled (lossy : Prop) (ps : List Param) (vs : Args ps) (c : Call ι)
    (r : Except InvocationError (Call ι)) : Prop :=
  (∃ l, Packed c.dispatcher.codec.Encodes ps vs l ∧ r = .ok (c.append l)) ∨ lossy ∧ ∃ m, r = .error (.codec m)

theorem Passing.marshal_keeps (c : Call ι) {lossy : Prop} (p : Passing) (v : p.Val)
    (h : ∀ t x, p.content v = .encoded t x → lossy ∨ c.dispatcher.codec.AlwaysEncodes t x) :
    (p.marshal c v : Act ι σ (Except InvocationError (Call ι))).Keeps fun r =>
      (∃ s, (p.content v).InSlot c.dispatcher.codec.Encodes s ∧ r = .ok (c.push p.typeName s)) ∨
        lossy ∧ ∃ m, r = .error (.codec m) := by
  have encoded (name : String) (t : Ty) (x : t.Val) (hx : lossy ∨ c.dispatcher.codec.AlwaysEncodes t x) :
      (c.pushEncoded name t x : Act ι σ (Except InvocationError (Call ι))).Keeps fun r =>
        (∃ s, (Content.encoded t x).InSlot c.dispatcher.codec.Encodes s ∧ r = .ok (c.push name s)) ∨
          lossy ∧ ∃ m, r = .error (.codec m) := by
    refine .bind (c.dispatcher.codec.serialize_keeps hx) fun r hr => ?_
    rcases hr with ⟨bs, hbs, rfl⟩ | ⟨hl, e, rfl⟩
    · exact .pure (.inl ⟨_, ⟨bs, hbs, rfl⟩, rfl⟩)
    · exact .bind (c.dispatcher.reject_keeps _ _ _) fun e' he => .pure (.inr ⟨hl, e.message, congrArg _ he⟩)
  cases p with
  | value t => exact encoded _ t v (h t v rfl)
  | optional t =>
    cases v with
    | none => exact .pure (.inl ⟨_, rfl, rfl⟩)
    | some x => exact encoded _ t x (h t x rfl)
  | reference t => exact .pure (.inl ⟨_, rfl, rfl⟩)
  | optionalReference t =>
    cases v with
    | none => exact .pure (.inl ⟨_, rfl, rfl⟩)
    | some x => exact .pure (.inl ⟨_, rfl, rfl⟩)

/-- **Packing the arguments.** The caller appends one argument for each parameter, in order, or stops at an encoding
that fails. -/
theorem marshal_keeps {lossy : Prop} (ps : List Param) (vs : Args ps) (c : Call ι)
    (h : ∀ t x, .encoded t x ∈ contents ps vs → lossy ∨ c.dispatcher.codec.AlwaysEncodes t x) :
    (marshal ps vs c : Act ι σ (Except InvocationError (Call ι))).Keeps (Marshalled lossy ps vs c) := by
  induction ps generalizing c with
  | nil => exact .pure (.inl ⟨[], rfl, by simp [Call.append]⟩)
  | cons p ps ih =>
    obtain ⟨v, vs⟩ := vs
    refine .bind (p.passing.marshal_keeps c v fun t x hx => h t x ?_) fun r hr => ?_
    · rw [contents, hx]
      exact List.mem_cons_self
    rcases hr with ⟨s, hs, rfl⟩ | ⟨hl, m, rfl⟩
    · refine (ih vs (c.push p.passing.typeName s) fun t x hx => h t x (List.mem_cons_of_mem _ hx)).mono fun r hr => ?_
      rcases hr with ⟨l, hl, rfl⟩ | hr
      · exact .inl ⟨_ :: l, ⟨s, l, rfl, hs, hl⟩, by simp [Call.append, Call.push, Invocation.push]⟩
      · exact .inr hr
    · exact .pure (.inr ⟨hl, m, rfl⟩)

/-! ## The receiving side -/

theorem Invocation.expectSignature_eq_ok_iff {inv : Invocation} {types : List String} {byReference : Bool} :
    inv.expectSignature types byReference = .ok () ↔
      inv.parameterTypes = types ∧ inv.resultByReference = byReference := by
  unfold expectSignature
  by_cases ht : inv.parameterTypes = types
  · rw [if_neg (not_not_intro ht)]
    by_cases hr : inv.resultByReference = byReference
    · rw [if_neg (not_not_intro hr)]
      exact ⟨fun _ => ⟨ht, hr⟩, fun _ => rfl⟩
    · rw [if_pos hr]
      exact ⟨fun h => (by cases h), fun h => absurd h.2 hr⟩
  · rw [if_pos ht]
    exact ⟨fun h => (by cases h), fun h => absurd h.1 ht⟩

namespace Invocation

variable {codec : Codec} {inv : Invocation} {i : Nat} {s : Slot}

/-- reading an argument that may be absent -/
theorem optionalArgument_eq_ok_iff {t : Ty} {v : Option t.Val} (h : inv.slot? i = some s) :
    inv.optionalArgument codec t i = .ok v ↔ (Passing.content (.optional t) v).InSlot codec.Decodes s := by
  unfold optionalArgument
  rw [h]
  cases s with
  | payload bs =>
    dsimp only
    cases v with
    | none => split <;> simp [Passing.content, Content.InSlot]
    | some x => split <;> simp_all [Passing.content, Content.InSlot, Codec.Decodes]
  | reference b => cases v <;> simp [Passing.content, Content.InSlot]
  | null => cases v <;> simp [Passing.content, Content.InSlot]

/-- reading an argument -/
theorem argument_eq_ok_iff {t : Ty} {v : t.Val} (h : inv.slot? i = some s) :
    inv.argument codec t i = .ok v ↔ (Content.encoded t v).InSlot codec.Decodes s := by
  rw [← show Passing.content (.optional t) (some v) = .encoded t v from rfl, ← optionalArgument_eq_ok_iff h]
  unfold argument
  split <;> simp_all

/-- taking an argument that may be absent -/
theorem takeOptional_eq_ok_iff {t : AnyTy} {v : Option t.Val} (h : inv.slot? i = some s) :
    (takeOptional t i inv).1 = .ok v ↔ (Passing.content (.optionalReference t) v).InSlot R s := by
  unfold takeOptional
  rw [h]
  cases s with
  | payload bs => cases v <;> simp [Passing.content, Content.InSlot]
  | null => cases v <;> simp [Passing.content, Content.InSlot]
  | reference b =>
    obtain ⟨u, x⟩ := b
    dsimp only
    by_cases hu : u = t
    · subst hu
      rw [BypassValue.downcast_self]
      cases v <;> simp [Passing.content, Content.InSlot]
    · rw [BypassValue.downcast_eq_none_iff.2 hu]
      cases v <;> simp [Passing.content, Content.InSlot, hu]

/-- taking an argument empties its slot at most -/
theorem takeOptional_state (t : AnyTy) (i : Nat) (inv : Invocation) :
    (takeOptional t i inv).2 = inv ∨ (takeOptional t i inv).2 = inv.setSlot i .null := by
  unfold takeOptional
  split
  · exact .inl rfl
  · exact .inl rfl
  · exact .inl rfl
  · split
    · exact .inr rfl
    · exact .inl rfl

theorem take_eq (t : AnyTy) (i : Nat) (inv : Invocation) :
    take t i inv = match takeOptional t i inv with
      | (.ok (some v), inv') => (.ok v, inv')
      | (.ok none, inv') => (.error (inv'.nullArgument i), inv')
      | (.error e, inv') => (.error e, inv') := by
  unfold take
  cases h : takeOptional t i inv with
  | mk r inv' =>
    cases r with
    | error e => exact bind_of_error h
    | ok v =>
      rw [bind_of_ok h]
      cases v <;> rfl

/-- taking an argument -/
theorem take_eq_ok_iff {t : AnyTy} {v : t.Val} (h : inv.slot? i = some s) :
    (take t i inv).1 = .ok v ↔ (Content.reference ⟨t, v⟩).InSlot R s := by
  rw [← show Passing.content (.optionalReference t) (some v) = .reference ⟨t, v⟩ from rfl,
    ← takeOptional_eq_ok_iff h, take_eq]
  split <;> simp_all

theorem take_state (t : AnyTy) (i : Nat) (inv : Invocation) : (take t i inv).2 = (takeOptional t i inv).2 := by
  rw [take_eq]
  split <;> simp_all

end Invocation

/-- **Unmarshalling an argument.** It gives an argument exactly when the slot holds it. -/
theorem Passing.unmarshal_eq_ok_iff {codec : Codec} {inv : Invocation} {i : Nat} {s : Slot} (p : Passing) {v : p.Val}
    (h : inv.slot? i = some s) :
    (p.unmarshal codec i inv).1 = .ok v ↔ (p.content v).InSlot codec.Decodes s := by
  cases p with
  | value t => exact Invocation.argument_eq_ok_iff h
  | optional t => exact Invocation.optionalArgument_eq_ok_iff h
  | reference t => exact Invocation.take_eq_ok_iff h
  | optionalReference t => exact Invocation.takeOptional_eq_ok_iff h

/-- unmarshalling an argument empties its slot at most -/
theorem Passing.unmarshal_state (codec : Codec) (i : Nat) (p : Passing) (inv : Invocation) :
    (p.unmarshal codec i inv).2 = inv ∨ (p.unmarshal codec i inv).2 = inv.setSlot i .null := by
  cases p with
  | value t => exact .inl rfl
  | optional t => exact .inl rfl
  | reference t =>
    show (Invocation.take t i inv).2 = inv ∨ (Invocation.take t i inv).2 = inv.setSlot i .null
    rw [Invocation.take_state]
    exact Invocation.takeOptional_state t i inv
  | optionalReference t => exact Invocation.takeOptional_state t i inv

theorem modify_append_self {α : Type} (f : α → α) (l r : List α) (a : α) :
    (l ++ a :: r).modify l.length f = l ++ f a :: r := by
  induction l with
  | nil => rfl
  | cons b l ih => simp [ih]

/-- the first argument is unmarshalled, and then the others from the record that this leaves -/
theorem unmarshal_cons_eq_ok_iff {codec : Codec} {p : Param} {ps : List Param} {i : Nat} {inv : Invocation}
    {v : p.passing.Val} {vs : Args ps} :
    (unmarshal codec (p :: ps) i inv).1 = .ok (v, vs) ↔
      (p.passing.unmarshal codec i inv).1 = .ok v ∧
        (unmarshal codec ps (i + 1) (p.passing.unmarshal codec i inv).2).1 = .ok vs := by
  rw [unmarshal]
  cases hp : p.passing.unmarshal codec i inv with
  | mk first inv' =>
    cases first with
    | error e =>
      rw [bind_of_error hp]
      simp
    | ok v' =>
      rw [bind_of_ok hp]
      cases hps : unmarshal codec ps (i + 1) inv' with
      | mk others inv'' =>
        cases others with
        | error e =>
          rw [bind_of_error hps]
          simp
        | ok vs' =>
          rw [bind_of_ok hps]
          show Except.ok (v', vs') = Except.ok (v, vs) ↔ _
          simp

/-- the slots behind `done` are read one after the other -/
theorem unmarshal_eq_ok_iff {codec : Codec} (ps : List Param) {vs : Args ps} {inv : Invocation}
    {done l : List Argument} (h : inv.arguments = done ++ l)
    (ht : l.map (·.typeName) = ps.map (·.passing.typeName)) :
    (unmarshal codec ps done.length inv).1 = .ok vs ↔ Packed codec.Decodes ps vs l := by
  induction ps generalizing inv done l with
  | nil => exact ⟨fun _ => List.map_eq_nil_iff.1 ht, fun _ => rfl⟩
  | cons p ps ih =>
    obtain ⟨v, vs⟩ := vs
    cases l with
    | nil => cases ht
    | cons a r =>
      obtain ⟨name, s⟩ := a
      obtain ⟨rfl, hr⟩ := List.cons.inj ht
      have hs : inv.slot? done.length = some s := by
        rw [Invocation.slot?, h, List.getElem?_append_right (Nat.le_refl _), Nat.sub_self]
        rfl
      -- the slot that was read may have been emptied; the ones behind it have not
      have hrest : ∃ s', (p.passing.unmarshal codec done.length inv).2.arguments =
          (done ++ [⟨p.passing.typeName, s'⟩]) ++ r := by
        rcases p.passing.unmarshal_state codec done.length inv with e | e
        · exact ⟨s, by rw [e, h]; simp⟩
        · refine ⟨.null, ?_⟩
          rw [e, Invocation.setSlot, h, modify_append_self]
          simp
      obtain ⟨s', hs'⟩ := hrest
      have behind := @ih vs _ _ _ hs' hr
      rw [List.length_append, List.length_singleton] at behind
      rw [unmarshal_cons_eq_ok_iff, p.passing.unmarshal_eq_ok_iff hs, behind]
      constructor
      · rintro ⟨hv, hvs⟩
        exact ⟨s, r, rfl, hv, hvs⟩
      · rintro ⟨s₁, r₁, hl, hv, hvs⟩
        cases hl
        exact ⟨hv, hvs⟩

/-- **Receiving.** The receiving side gets arguments exactly from a record that packs them and asks for the result in
the way of the method. -/
theorem Signature.receive_eq_ok_iff {sig : Signature} {codec : Codec} {inv : Invocation} {args : Args sig.params} :
    sig.receive codec inv = .ok args ↔
      inv.resultByReference = sig.result.byReference ∧ Packed codec.Decodes sig.params args inv.arguments := by
  have unmarshalled (ht : inv.parameterTypes = sig.types) :
      (unmarshal codec sig.params 0 inv).1 = .ok args ↔ Packed codec.Decodes sig.params args inv.arguments :=
    unmarshal_eq_ok_iff sig.params (show inv.arguments = [] ++ inv.arguments from rfl) ht
  unfold receive
  constructor
  · intro h
    split at h
    · cases h
    · next hsig =>
      obtain ⟨ht, hr⟩ := Invocation.expectSignature_eq_ok_iff.1 hsig
      exact ⟨hr, (unmarshalled ht).1 h⟩
  · rintro ⟨hr, hp⟩
    have ht : inv.parameterTypes = sig.types := hp.parameterTypes
    rw [Invocation.expectSignature_eq_ok_iff.2 ⟨ht, hr⟩]
    exact (unmarshalled ht).2 hp

end Loopback
