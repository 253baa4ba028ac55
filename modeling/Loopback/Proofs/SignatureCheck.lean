/-
What the signature check protects.

A record tells the types of its arguments by name. An argument of an optional type can be sent in two ways under one
name: as the encoding of the whole option, or as null or the encoding of the value in it. The receiving side reads it
in the way of its parameter, and Postcard does not look at the bytes behind what it reads. So a record that fits the
signature and is read without error can still give the method another value than the one the caller passed.
- `received_iff_not_confused`: every argument is received as it was passed, except those that the two sides confuse;
- `describe_confused`: a caller passes nothing, and the method is given an empty text.
-/
import Mathlib.Tactic.ByContra
import Loopback.Proofs.Delivery
import Loopback.Proofs.PostcardRoundTrip
import Loopback.Proofs.TypeName
import Loopback.Sample.Services

namespace Loopback

open Sample

variable {ι σ : Type}

/-! ## Values with their declared types -/

/-- a value as it is declared: of an optional type, or of any other -/
inductive Given where
  | plain (t : AnyTy) (v : t.Val)
  | optional (t : AnyTy) (v : Option t.Val)

/-- a value of a type -/
def Given.of : (t : AnyTy) → t.Val → Given
  | .data (.option t), v => .optional (.data t) v
  | t, v => .plain t v

/-- what is passed for a parameter, or received for it -/
def Passing.given : (p : Passing) → p.Val → Given
  | .value t, v => .of (.data t) v
  | .optional t, v => .optional (.data t) v
  | .reference t, v => .of t v
  | .optionalReference t, v => .optional t v

/-- what is passed in one way and received in another is confused: a whole option is read as the value in it, or the
value in an option as a whole one, and the bytes do not happen to mean the same -/
inductive Confused : (p : Passing) → p.Val → Passing → Prop where
  | whole {t : Ty} {o : Option t.Val}
      (h : ∀ x bs, o = some x → Postcard.write t x = .ok bs → Postcard.read t (1 :: bs) ≠ .ok x) :
      Confused (.value (.option t)) o (.optional t)
  | inner {t : Ty} {x : t.Val}
      (h : ∀ bs, Postcard.write t x = .ok bs → Postcard.read (.option t) bs ≠ .ok (some x)) :
      Confused (.optional t) (some x) (.value (.option t))

/-- what is received in the way it was passed is not confused -/
theorem not_confused_self (p : Passing) (v : p.Val) : ¬Confused p v p := nofun

/-- nothing, passed as a whole option, always is -/
theorem confused_none (t : Ty) : Confused (.value (.option t)) none (.optional t) := .whole nofun

/-- a relation between what is passed and what is received holds for all arguments, and there are as many of each -/
def Throughout (T : (p : Passing) → p.Val → (q : Passing) → q.Val → Prop) :
    (ps qs : List Param) → Args ps → Args qs → Prop
  | [], [], _, _ => True
  | p :: ps, q :: qs, (v, vs), (x, xs) => T p.passing v q.passing x ∧ Throughout T ps qs vs xs
  | [], _ :: _, _, _ => False
  | _ :: _, [], _, _ => False

theorem optionalName_injective {s s' : String} (h : optionalName s = optionalName s') : s = s' :=
  (String.append_right_inj _).1 ((String.append_left_inj _).1 h)

/-- an optional type is not named like the type in it -/
theorem optionalName_ne (s : String) : optionalName s ≠ s := by
  have longer (l r : String) (hl : 0 < l.length) (h : l ++ s ++ r = s) : False := by
    have h := congrArg String.length h
    rw [String.length_append, String.length_append] at h
    omega
  exact longer "core::option::Option<" ">" (by decide)

theorem Given.optional_eq_iff {t : AnyTy} {v v' : Option t.Val} : Given.optional t v = .optional t v' ↔ v = v' := by
  constructor
  · intro h
    cases h
    rfl
  · exact congrArg _

/-! ## One argument -/

section Crossing

variable {t : Ty} {x : t.Val} {o : Option t.Val} {bs : Bytes}

/-- a whole option that is read as the value in it -/
theorem whole_eq_iff (h : Postcard.write (.option t) o = .ok bs) (h' : Postcard.read t bs = .ok x) :
    some x = o ↔ ¬Confused (.value (.option t)) o (.optional t) := by
  constructor
  · rintro rfl hconfused
    obtain ⟨cs, hcs, h⟩ := Postcard.bind_eq_ok h
    cases h
    cases hconfused with
    | whole hdiffers => exact hdiffers x cs rfl hcs h'
  · intro hclear
    cases o with
    | none => exact absurd (.whole nofun) hclear
    | some y =>
      obtain ⟨cs, hcs, h⟩ := Postcard.bind_eq_ok h
      cases h
      by_contra hne
      refine hclear (.whole fun z ds hz hds hread => hne ?_)
      cases hz
      cases hds.symm.trans hcs
      cases hread.symm.trans h'
      rfl

/-- the value in an option that is read as a whole one -/
theorem inner_eq_iff (h : Postcard.write t x = .ok bs) (h' : Postcard.read (.option t) bs = .ok o) :
    o = some x ↔ ¬Confused (.optional t) (some x) (.value (.option t)) := by
  constructor
  · rintro rfl hconfused
    cases hconfused with
    | inner hdiffers => exact hdiffers bs h h'
  · intro hclear
    by_contra hne
    refine hclear (.inner fun cs hcs hread => hne ?_)
    cases hcs.symm.trans h
    cases hread.symm.trans h'
    rfl

end Crossing

/-- the ways to pass what an argument is on its way -/
inductive Passing.Carries : (p : Passing) → p.Val → Content → Prop where
  | value {t : Ty} {v : t.Val} : Carries (.value t) v (.encoded t v)
  | optional {t : Ty} {v : t.Val} : Carries (.optional t) (some v) (.encoded t v)
  | reference {t : AnyTy} {v : t.Val} : Carries (.reference t) v (.reference ⟨t, v⟩)
  | optionalReference {t : AnyTy} {v : t.Val} : Carries (.optionalReference t) (some v) (.reference ⟨t, v⟩)
  | absent {t : Ty} : Carries (.optional t) none .absent
  | absentReference {t : AnyTy} : Carries (.optionalReference t) none .absent

theorem Passing.carries_content (p : Passing) (v : p.Val) : p.Carries v (p.content v) := by
  cases p with
  | value t => exact .value
  | optional t =>
    cases v with
    | none => exact .absent
    | some v => exact .optional
  | reference t => exact .reference
  | optionalReference t =>
    cases v with
    | none => exact .absentReference
    | some v => exact .optionalReference

/-- what two contents of one slot have in common -/
theorem Content.InSlot.cases {R S : (t : Ty) → t.Val → Bytes → Prop} {c c' : Content} {s : Slot} (h : c.InSlot R s)
    (h' : c'.InSlot S s) :
    (∃ t v u x bs, c = .encoded t v ∧ c' = .encoded u x ∧ R t v bs ∧ S u x bs) ∨
      (∃ b, c = .reference b ∧ c' = .reference b) ∨ c = .absent ∧ c' = .absent := by
  cases c with
  | encoded t v =>
    obtain ⟨bs, hR, rfl⟩ := h
    cases c' with
    | encoded u x =>
      obtain ⟨cs, hS, hs⟩ := h'
      cases hs
      exact .inl ⟨t, v, u, x, bs, rfl, rfl, hR, hS⟩
    | reference b => cases h'
    | absent => cases h'
  | reference b =>
    cases h
    cases c' with
    | encoded u x =>
      obtain ⟨cs, -, hs⟩ := h'
      cases hs
    | reference b' =>
      cases h'
      exact .inr (.inl ⟨b, rfl, rfl⟩)
    | absent => cases h'
  | absent =>
    cases h
    cases c' with
    | encoded u x =>
      obtain ⟨cs, -, hs⟩ := h'
      cases hs
    | reference b => cases h'
    | absent => exact .inr (.inr ⟨rfl, rfl⟩)

section OneArgument

variable {limit limit' : Option Nat} {p q : Passing} {v : p.Val} {x : q.Val}

/-- a value that is sent as bytes is received as it was passed, unless it crosses between the two encodings -/
theorem Passing.given_eq_iff_of_encoded {t u : Ty} {y : t.Val} {z : u.Val} {bs : Bytes}
    (hp : p.Carries v (.encoded t y)) (hq : q.Carries x (.encoded u z)) (hname : p.typeName = q.typeName)
    (hencode : (Codec.postcard limit).Encodes t y bs) (hdecode : (Codec.postcard limit').Decodes u z bs) :
    q.given x = p.given v ↔ ¬Confused p v q := by
  have written := Codec.postcard_encode_eq_ok_iff.1 hencode
  have readBack := (Codec.postcard_decode_eq_ok_iff.1 hdecode).2
  cases hp with
  | value =>
    cases hq with
    | value =>
      cases Ty.name_injective hname
      cases Codec.eq_of_postcard hencode hdecode
      exact iff_of_true rfl (not_confused_self _ _)
    | optional =>
      cases Ty.name_injective (u := .option u) hname
      exact Given.optional_eq_iff.trans (whole_eq_iff written readBack)
  | optional =>
    cases hq with
    | value =>
      cases Ty.name_injective (t := .option t) hname
      exact Given.optional_eq_iff.trans (inner_eq_iff written readBack)
    | optional =>
      cases Ty.name_injective (optionalName_injective hname)
      cases Codec.eq_of_postcard hencode hdecode
      exact iff_of_true rfl (not_confused_self _ _)

/-- a value that is passed by reference has its type with it -/
theorem Passing.given_eq_iff_of_reference {b : BypassValue} (hp : p.Carries v (.reference b))
    (hq : q.Carries x (.reference b)) (hname : p.typeName = q.typeName) :
    q.given x = p.given v ↔ ¬Confused p v q := by
  cases hp with
  | reference =>
    cases hq with
    | reference => exact iff_of_true rfl (not_confused_self _ _)
    | optionalReference => exact absurd hname.symm (optionalName_ne _)
  | optionalReference =>
    cases hq with
    | reference => exact absurd hname (optionalName_ne _)
    | optionalReference => exact iff_of_true rfl (not_confused_self _ _)

/-- a value that is absent only has the name of its type -/
theorem Passing.given_eq_iff_of_absent (hp : p.Carries v .absent) (hq : q.Carries x .absent)
    (hname : p.typeName = q.typeName) : q.given x = p.given v ↔ ¬Confused p v q := by
  cases hp with
  | absent =>
    cases hq with
    | absent =>
      cases Ty.name_injective (optionalName_injective hname)
      exact iff_of_true rfl (not_confused_self _ _)
    | absentReference =>
      cases AnyTy.name_injective (t := .data _) (optionalName_injective hname)
      exact iff_of_true rfl nofun
  | absentReference =>
    cases hq with
    | absent =>
      cases AnyTy.name_injective (u := .data _) (optionalName_injective hname)
      exact iff_of_true rfl nofun
    | absentReference =>
      cases AnyTy.name_injective (optionalName_injective hname)
      exact iff_of_true rfl (not_confused_self _ _)

/-- **One argument.** What the receiving side reads from the slot of an argument is what was passed, exactly when the
two sides do not confuse it. -/
theorem Passing.given_eq_iff {s : Slot} (hname : p.typeName = q.typeName)
    (h : (p.content v).InSlot (Codec.postcard limit).Encodes s)
    (h' : (q.content x).InSlot (Codec.postcard limit').Decodes s) :
    q.given x = p.given v ↔ ¬Confused p v q := by
  have hp := p.carries_content v
  have hq := q.carries_content x
  rcases h.cases h' with ⟨t, y, u, z, bs, hc, hc', hencode, hdecode⟩ | ⟨b, hc, hc'⟩ | ⟨hc, hc'⟩
  · rw [hc] at hp
    rw [hc'] at hq
    exact given_eq_iff_of_encoded hp hq hname hencode hdecode
  · rw [hc] at hp
    rw [hc'] at hq
    exact given_eq_iff_of_reference hp hq hname
  · rw [hc] at hp
    rw [hc'] at hq
    exact given_eq_iff_of_absent hp hq hname

end OneArgument

/-! ## All arguments -/

theorem Packed.throughout {R S : (t : Ty) → t.Val → Bytes → Prop}
    {T : (p : Passing) → p.Val → (q : Passing) → q.Val → Prop}
    (hT : ∀ {p q : Passing} {v : p.Val} {x : q.Val} {s : Slot}, p.typeName = q.typeName →
      (p.content v).InSlot R s → (q.content x).InSlot S s → T p v q x)
    {ps qs : List Param} {vs : Args ps} {xs : Args qs} {l : List Argument} (h : Packed R ps vs l)
    (h' : Packed S qs xs l) : Throughout T ps qs vs xs := by
  induction ps generalizing qs l with
  | nil =>
    cases h
    cases qs with
    | nil => trivial
    | cons q qs =>
      obtain ⟨s, r, hl, -, -⟩ := h'
      cases hl
  | cons p ps ih =>
    obtain ⟨s, r, rfl, hs, hr⟩ := h
    cases qs with
    | nil => cases h'
    | cons q qs =>
      obtain ⟨s', r', hl, hs', hr'⟩ := h'
      obtain ⟨ha, rfl⟩ := List.cons.inj hl
      obtain ⟨hname, rfl⟩ := Argument.mk.inj ha
      exact ⟨hT hname hs hs', ih hr hr'⟩

/-- **What the signature check protects.** A caller adds arguments to a call in any ways. If the record fits the
signature of the method and all arguments are read, then the method is given as many arguments as were passed, and each
one is what was passed, except exactly those that the two sides confuse. -/
theorem received_iff_not_confused {d : Dispatcher} {limit limit' : Option Nat} (hcodec : d.codec = .postcard limit)
    {method : String} {w w₀ w₁ : World ι σ} {call call' : Call ι} (hcall : d.call method w = (.ok (.ok call), w₀))
    {ps : List Param} {given : Args ps} (hmarshal : marshal ps given call w₀ = (.ok (.ok call'), w₁))
    {sig : Signature} {ret : Returning} {received : Args sig.params}
    (hreceive : sig.receive (.postcard limit') (call'.sent ret) = .ok received) :
    Throughout (fun p v q x => q.given x = p.given v ↔ ¬Confused p v q) ps sig.params given received := by
  obtain ⟨-, hd, hrecord⟩ := Dispatcher.call_ok hcall
  obtain ⟨_, _, hm, -, hpacked⟩ := marshal_keeps ps given call (fun _ _ _ => .inl trivial) w₀
  rw [hmarshal] at hm
  cases hm
  obtain ⟨l, hl, ⟨⟩⟩ | ⟨-, m, ⟨⟩⟩ := hpacked
  rw [hd, hcodec] at hl
  have read := (Signature.receive_eq_ok_iff.1 hreceive).2
  rw [(Call.sent_append hrecord l ret).2] at read
  exact hl.throughout Passing.given_eq_iff read

/-- what calls a service by hand -/
def handDispatcher (service : String) : Dispatcher := ⟨service, ⟨0, 0⟩, .postcard none, none⟩

/-- the name of a user is passed as a whole option, without a name; the user arrives, and an empty name for the name -/
theorem received_rename :
    ∃ call w₀ call' w₁, (handDispatcher "/users").call "rename" (.hosting "/users" () ()) = (.ok (.ok call), w₀) ∧
      marshal [⟨"user", .value .user⟩, ⟨"name", .value (.option .text)⟩] (⟨1, "Ada"⟩, none, ()) call w₀ =
        (.ok (.ok call'), w₁) ∧
      Users.rename.receive (.postcard none) (call'.sent (.value .user)) = .ok (⟨1, "Ada"⟩, some "", ()) ∧
      Throughout (fun p v q x => q.given x = p.given v ↔ ¬Confused p v q)
        [⟨"user", .value .user⟩, ⟨"name", .value (.option .text)⟩] Users.rename.params (⟨1, "Ada"⟩, none, ())
        (⟨1, "Ada"⟩, some "", ()) := by
  obtain ⟨w₀, hcall⟩ := (handDispatcher "/users").exists_call_hosting "rename" () () rfl
  have user : (Codec.postcard none).Decodes .user ⟨1, "Ada"⟩ (Postcard.user ⟨1, "Ada"⟩) :=
    Codec.postcard_decode_eq_ok_iff.2 ⟨nofun, Postcard.read_write rfl (show Postcard.FitsText "Ada" by decide)⟩
  have name : (Codec.postcard none).Decodes .text "" [0] := Codec.postcard_decode_eq_ok_iff.2 ⟨nofun, rfl⟩
  have received : ∃ call' w₁, marshal [⟨"user", .value .user⟩, ⟨"name", .value (.option .text)⟩] (⟨1, "Ada"⟩, none, ())
      ((handDispatcher "/users").firstCall "main" "rename" ()) w₀ = (.ok (.ok call'), w₁) ∧
      Users.rename.receive (.postcard none) (call'.sent (.value .user)) = .ok (⟨1, "Ada"⟩, some "", ()) :=
    ⟨_, _, rfl, Signature.receive_eq_ok_iff.2
      ⟨rfl, .payload _, _, rfl, ⟨_, user, rfl⟩, .payload _, _, rfl, ⟨_, name, rfl⟩, rfl⟩⟩
  obtain ⟨call', w₁, hmarshal, hreceive⟩ := received
  have codec : (handDispatcher "/users").codec = .postcard none := rfl
  exact ⟨_, _, _, _, hcall, hmarshal, hreceive, received_iff_not_confused codec hcall hmarshal hreceive⟩

theorem describe_confused :
    ∃ call w₀ call' w₁, (handDispatcher "/calc").call "describe" (.hosting "/calc" () ()) = (.ok (.ok call), w₀) ∧
      marshal [⟨"label", .value (.option .text)⟩] (none, ()) call w₀ = (.ok (.ok call'), w₁) ∧
      Calculator.describe.receive (.postcard none) (call'.sent (.value .text)) = .ok (some "", ()) ∧
      ¬Throughout (fun p v q x => q.given x = p.given v) [⟨"label", .value (.option .text)⟩] Calculator.describe.params
        (none, ()) (some "", ()) := by
  obtain ⟨w₀, hcall⟩ := (handDispatcher "/calc").exists_call_hosting "describe" () () rfl
  have label : (Codec.postcard none).Decodes .text "" [0] := Codec.postcard_decode_eq_ok_iff.2 ⟨nofun, rfl⟩
  refine ⟨_, w₀, _, w₀, hcall, rfl, Signature.receive_eq_ok_iff.2 ⟨rfl, .payload _, _, rfl, ⟨_, label, rfl⟩, rfl⟩, ?_⟩
  intro h
  have same : some "" = none := Given.optional_eq_iff.1 h.1
  cases same

end Loopback
