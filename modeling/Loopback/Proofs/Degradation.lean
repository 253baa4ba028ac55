/-
Calls through a codec that may fail at any time.

The codec refuses encodings by a schedule of its own, or refuses bytes, in any pattern. It is only asked never to give
another value back (`Codec.Honest`) and not to take no bytes for an envelope.
- `call_degrades`: an argument that fails to encode ends the call before the method runs; otherwise the receiving side
  handles the record once, and the caller gets the fate of the record or a failure that tells it no untruth.
-/
import Loopback.Proofs.Delivery
import Loopback.Proofs.PostcardRoundTrip

namespace Loopback

variable {ι σ : Type}

/-! ## Honest codecs -/

/-- bytes that the codec wrote never give another value back -/
def Codec.Honest (c : Codec) : Prop := ∀ (t : Ty) (v v' : t.Val) bs, c.Encodes t v bs → c.Decodes t v' bs → v' = v

namespace Codec.Honest

variable {c : Codec}

theorem carries (h : c.Honest) (t : Ty) (v : t.Val) : c.Carries True t v := by
  refine ⟨.inl trivial, fun bs hbs => ?_⟩
  cases hd : c.decode t bs with
  | error e => exact .inr ⟨trivial, e, rfl⟩
  | ok v' =>
    cases h t v v' bs hbs hd
    exact .inl hd

theorem carriesFate (h : c.Honest) (hnothing : ∃ e, c.decode .remoteFailure [] = .error e) (E : ErrorType)
    (ret : Returning) (fate : Fate (Except E.Val ret.Val)) : c.CarriesFate True E ret fate := by
  have failure (f : RemoteFailure) : c.CarriesFailure True f :=
    ⟨h.carries .remoteFailure f, fun _ => h.carries .remoteFailure f.plain, fun _ => hnothing⟩
  cases fate with
  | rejected e => exact failure _
  | panicked p => exact failure _
  | answered a =>
    cases a with
    | ok v =>
      cases ret with
      | value t => exact ⟨h.carries t v, fun _ _ => failure _⟩
      | reference t => trivial
    | error e =>
      cases ret with
      | value t => exact ⟨h.carries _ e, fun f _ => failure f⟩
      | reference t => exact ⟨h.carries _ e, fun f _ => failure f⟩

end Codec.Honest

theorem Codec.postcard_honest (limit : Option Nat) : (postcard limit).Honest := fun _ _ _ _ h h' => eq_of_postcard h h'

/-- Postcard with the encodings of some numbers failing -/
def Codec.faulty (fails : Nat → Bool) : Codec :=
  { postcard none with
    name := "faulty"
    schedule := some ⟨0, fun n => if fails n then some (.new .encode "out of order") else none⟩ }

theorem Codec.faulty_honest (fails : Nat → Bool) : (faulty fails).Honest := postcard_honest none

/-! ## Calls -/

/-- **Graceful degradation.** A call through an honest codec that may fail ends in one of two ways. An argument fails to
encode: then nothing ran, and the caller gets that error. Or the receiving side handles the record of the arguments
once, and what the caller gets is tolerable for the fate of that record; a value is then the one that the method
returned, and an error is its own or one of the invocation layer. -/
theorem call_degrades (behave : Behaviour ι σ) (d : Dispatcher) (s : Service ι σ) (sig : Signature)
    (args : Args sig.params) {w w₀ : World ι σ} {call : Call ι}
    (hcall : d.call sig.name w = (.ok (.ok call), w₀))
    (hinvoker : behave call.invoker = s.respond d.codec)
    (hmethod : ∀ m, s.method? sig.name = some m → m.signature.result.byReference = sig.result.byReference →
      m.signature.result = sig.result ∧ m.signature.error = sig.error)
    (hhonest : d.codec.Honest) (hnothing : ∃ e, d.codec.decode .remoteFailure [] = .error e) :
    (∃ m w₁, marshal sig.params args call w₀ = (.ok (.error (.codec m)), w₁) ∧ w.Alike w₁ ∧
      sig.call behave d args w = (.ok (.error (sig.error.ofInvocation (.codec m))), w₁)) ∨
    ∃ call' w₁ w₂ fate w₃ got w₄, marshal sig.params args call w₀ = (.ok (.ok call'), w₁) ∧ w.Alike w₂ ∧
      s.Handles d.codec (call'.sent sig.result) w₂ fate w₃ ∧ w₃.Alike w₄ ∧
      sig.call behave d args w = (.ok got, w₄) ∧ Tolerable True sig.error sig.result fate got ∧
      (∀ v, got = .ok v → fate = .answered (.ok v)) ∧
      ∀ e, got = .error e → fate = .answered (.error e) ∨ ∃ i, e = sig.error.ofInvocation i := by
  obtain ⟨hl₀, -, hrecord⟩ := Dispatcher.call_ok hcall
  obtain ⟨_, w₁, hmarshal, hl₁, ⟨l, -, rfl⟩ | ⟨-, m, rfl⟩⟩ :=
    marshal_keeps sig.params args call (fun _ _ _ => .inl trivial) w₀
  · right
    obtain ⟨w₂, hl₂, hdeliver⟩ := Signature.call_tolerable True hcall hinvoker hmarshal
    have hname := (Call.sent_append hrecord l sig.result).1
    obtain ⟨fate, w₃, hh⟩ := s.exists_handles (c := d.codec) w₂ fun m hm hr => hmethod m (by rw [← hname]; exact hm) hr
    obtain ⟨got, w₄, hl₄, hgot, htold⟩ := hdeliver fate w₃ hh (hhonest.carriesFate hnothing _ _ fate)
    refine ⟨_, w₁, w₂, fate, w₃, got, w₄, hmarshal, hl₀.trans (hl₁.trans hl₂), hh, hl₄, hgot, htold, ?_, ?_⟩
    · rintro v rfl
      exact htold.of_ok
    · rintro e rfl
      exact htold.of_error
  · exact .inl ⟨m, w₁, hmarshal, hl₀.trans hl₁, Signature.call_of_marshal_error hcall hmarshal⟩

/-- what a proxy of the service for notes calls through; every other encoding fails -/
def faultyDispatcher : Dispatcher := ⟨"/notes", ⟨0, 0⟩, .faulty fun n => n % 2 == 1, none⟩

theorem call_degrades_note :
    ∃ got w', noteSignature.call (fun _ => noteService.respond faultyDispatcher.codec) faultyDispatcher
        ("Ada", some "tag", "buffer", none, ()) (.hosting "/notes" () []) = (.ok got, w') ∧ ∀ v, got ≠ .ok v := by
  obtain ⟨w₀, hcall⟩ :=
    faultyDispatcher.exists_call_hosting "note" () ([] : List (Args noteSignature.params)) rfl
  have expected : ∀ m, noteService.method? "note" = some m →
      m.signature.result.byReference = noteSignature.result.byReference →
        m.signature.result = noteSignature.result ∧ m.signature.error = noteSignature.error := by
    intro m hm _
    cases hm
    exact ⟨rfl, rfl⟩
  rcases call_degrades (fun _ => noteService.respond faultyDispatcher.codec) faultyDispatcher noteService noteSignature
      ("Ada", some "tag", "buffer", none, ()) hcall rfl expected (Codec.faulty_honest _) ⟨_, rfl⟩ with
    ⟨m, w₁, -, -, hgot⟩ | ⟨call', w₁, w₂, fate, w₃, got, w₄, -, -, hh, -, hgot, -, hvalue, -⟩
  · exact ⟨_, w₁, hgot, fun v hv => by cases hv⟩
  · refine ⟨got, w₄, hgot, fun v hv => ?_⟩
    have answered := hvalue v hv
    subst answered
    cases hh with
    | answered hm ha hb =>
      cases List.mem_singleton.1 (List.mem_of_find?_eq_some hm)
      cases hb

end Loopback
