/-
A call through a faithful codec is a call of the method.

The codec must give back every value that it is handed in the call: the arguments that travel as bytes, the result or
the declared error, and the envelopes around failures. Values by reference and absent arguments never meet it.
- `call_transparent`: the method runs once, on exactly the arguments of the caller, and the caller gets exactly what it
  answers. Counters, meters and the log apart, the state is the one that the method leaves.
-/
import Loopback.Proofs.Delivery
import Loopback.Proofs.PostcardRoundTrip

namespace Loopback

variable {ι σ : Type}

/-! ## Faithful codecs -/

/-- the codec always encodes the value, and its bytes give it back -/
structure Codec.Inverts (c : Codec) (t : Ty) (v : t.Val) : Prop where
  always : c.AlwaysEncodes t v
  decodes : ∀ bs, c.Encodes t v bs → c.Decodes t v bs

/-- the codec gives back an answer: a result that travels as bytes, or a declared error and its envelope -/
def Codec.InvertsAnswer (c : Codec) (E : ErrorType) : (r : Returning) → Except E.Val r.Val → Prop
  | .value t, .ok v => c.Inverts t v
  | .reference _, .ok _ => True
  | _, .error e =>
    c.Inverts E.ty e ∧
      ∀ bs, c.Encodes E.ty e bs → c.Inverts .remoteFailure (.ofDeclared (E.report e) (some bs))

/-- the codec gives back what comes of a run: the answer, or the envelope of a panic -/
def Codec.InvertsOutcome (c : Codec) (sig : Signature) : Except Panic sig.Answer → Prop
  | .ok a => c.InvertsAnswer sig.error sig.result a
  | .error p => c.Inverts .remoteFailure (.ofPanic p)

/-- what the caller is told of a run: the answer itself, or the panic as a failure of the other side -/
def Signature.told (sig : Signature) : Except Panic sig.Answer → sig.Answer
  | .ok a => a
  | .error p => .error (sig.error.ofInvocation (.remote (.ofPanic p)))

theorem Codec.Inverts.carries {c : Codec} {lossy : Prop} {t : Ty} {v : t.Val} (h : c.Inverts t v) :
    c.Carries lossy t v :=
  ⟨.inr h.always, fun bs hbs => .inl (h.decodes bs hbs)⟩

theorem Codec.Inverts.carriesFailure {c : Codec} {f : RemoteFailure} (h : c.Inverts .remoteFailure f) :
    c.CarriesFailure False f :=
  ⟨h.carries, False.elim, False.elim⟩

/-- a declared error that is given back: the error and its envelope are -/
theorem Codec.InvertsAnswer.declared {c : Codec} {E : ErrorType} {r : Returning} {e : E.Val}
    (h : c.InvertsAnswer E r (.error e)) : c.Inverts E.ty e ∧
      ∀ bs, c.Encodes E.ty e bs → c.Inverts .remoteFailure (.ofDeclared (E.report e) (some bs)) := by
  cases r <;> exact h

theorem Codec.InvertsAnswer.carries {c : Codec} {E : ErrorType} {r : Returning} {a : Except E.Val r.Val}
    (h : c.InvertsAnswer E r a) : c.CarriesAnswer False E r a := by
  cases a with
  | ok v =>
    cases r with
    | value t => exact ⟨Codec.Inverts.carries h, False.elim⟩
    | reference t => trivial
  | error e =>
    obtain ⟨error, envelope⟩ := h.declared
    have carried : c.Carries False E.ty e ∧ ∀ f, c.Declares False E e f → c.CarriesFailure False f := by
      refine ⟨error.carries, fun f hf => ?_⟩
      rcases hf with ⟨bs, hbs, rfl⟩ | ⟨hl, -⟩
      · exact (envelope bs hbs).carriesFailure
      · exact hl.elim
    cases r <;> exact carried

/-- Postcard gives back every value that it encodes and that fits -/
theorem Codec.postcard_inverts {t : Ty} {v : t.Val} {bs : Bytes} (h : Postcard.write t v = .ok bs)
    (hf : Postcard.Fits t v) : (postcard none).Inverts t v := by
  refine ⟨⟨⟨bs, postcard_encode_eq_ok_iff.2 h⟩, fun s n hs => ?_⟩, fun cs hcs => ?_⟩
  · cases hs
  · have written := Postcard.read_write (postcard_encode_eq_ok_iff.1 hcs) hf
    exact postcard_decode_eq_ok_iff.2 ⟨fun n hn => absurd hn (Option.not_mem_none n), written⟩

/-! ## Calls -/

/-- a record that packs the arguments of a method is handled by running the method on them -/
theorem Service.handles_run {s : Service ι σ} {codec : Codec} {m : Method ι σ} {inv : Invocation}
    {args : Args m.signature.params} {w w' : World ι σ} {r : Except Panic m.signature.Answer}
    (hm : s.method? inv.method = some m) (hr : inv.resultByReference = m.signature.result.byReference)
    (hp : Packed codec.Decodes m.signature.params args inv.arguments) (hb : m.body args w = (r, w')) :
    s.Handles codec inv w (match r with
      | .ok a => .answered a
      | .error p => .panicked p : Fate m.signature.Answer) w' := by
  have received : m.signature.receive codec inv = .ok args := Signature.receive_eq_ok_iff.2 ⟨hr, hp⟩
  cases r with
  | ok a => exact .answered hm received hb
  | error p => exact .panicked hm received hb

/-- **Transparency.** A call of a method through a codec that gives back what it is handed runs the method once, on
exactly the arguments of the caller, and tells the caller exactly what comes of the run. Everything else that the call
does is bookkeeping. -/
theorem call_transparent (behave : Behaviour ι σ) (d : Dispatcher) (s : Service ι σ) (m : Method ι σ)
    (args : Args m.signature.params) {w w₀ : World ι σ} {call : Call ι}
    (hm : s.method? m.signature.name = some m)
    (hcall : d.call m.signature.name w = (.ok (.ok call), w₀))
    (hinvoker : behave call.invoker = s.respond d.codec)
    (hargs : ∀ t v, .encoded t v ∈ contents m.signature.params args → d.codec.Inverts t v) :
    ∃ w₁, w.Alike w₁ ∧ ∀ r w₂, m.body args w₁ = (r, w₂) → d.codec.InvertsOutcome m.signature r →
      ∃ w₃, w₂.Alike w₃ ∧ m.signature.call behave d args w = (.ok (m.signature.told r), w₃) := by
  obtain ⟨hl₀, hd, hrecord⟩ := Dispatcher.call_ok hcall
  have always : ∀ t x, .encoded t x ∈ contents m.signature.params args →
      False ∨ call.dispatcher.codec.AlwaysEncodes t x := by
    intro t x hx
    rw [hd]
    exact .inr (hargs t x hx).always
  obtain ⟨_, w₁, hmarshal, hl₁, ⟨l, hpacked, rfl⟩ | ⟨hlossy, -⟩⟩ := marshal_keeps m.signature.params args call always w₀
  · rw [hd] at hpacked
    obtain ⟨w₂, hl₂, hdeliver⟩ := Signature.call_tolerable False hcall hinvoker hmarshal
    refine ⟨w₂, hl₀.trans (hl₁.trans hl₂), fun r w₃ hb hr => ?_⟩
    obtain ⟨hname, harguments⟩ := Call.sent_append hrecord l m.signature.result
    have received : Packed d.codec.Decodes m.signature.params args
        ((call.append l).sent m.signature.result).arguments := by
      rw [harguments]
      exact hpacked.mono fun t v bs hv => (hargs t v hv).decodes bs
    have handled := Service.handles_run (by rw [hname]; exact hm) rfl received hb
    cases r with
    | ok a =>
      obtain ⟨got, w₄, hl₄, hgot, htold⟩ := hdeliver _ w₃ handled hr.carries
      have told : got = a := by
        cases a with
        | ok v => exact htold.resolve_right fun h => h.1.1
        | error e => exact htold.resolve_right fun h => h.1
      exact ⟨w₄, hl₄, told ▸ hgot⟩
    | error p =>
      obtain ⟨got, w₄, hl₄, hgot, htold⟩ := hdeliver _ w₃ handled hr.carriesFailure
      have told : got = m.signature.told (.error p) := htold.resolve_right fun h => h.1
      exact ⟨w₄, hl₄, told ▸ hgot⟩
  · exact hlossy.elim

/-- what a proxy of the service for notes calls through -/
def noteDispatcher : Dispatcher := ⟨"/notes", ⟨0, 0⟩, .postcard none, none⟩

theorem call_transparent_note :
    ∃ w', noteSignature.call (fun _ => noteService.respond (.postcard none)) noteDispatcher
        ("Ada", none, "buffer", some "log", ()) (.hosting "/notes" () []) = (.ok (.error .divisionByZero), w') ∧
      w'.app = [("Ada", none, "buffer", some "log", ())] := by
  obtain ⟨w₀, hcall⟩ := noteDispatcher.exists_call_hosting "note" () ([] : List (Args noteSignature.params)) rfl
  have inverts {t : Ty} {v : t.Val} {bs : Bytes} (h : Postcard.write t v = .ok bs) (hf : Postcard.Fits t v) :
      noteDispatcher.codec.Inverts t v := Codec.postcard_inverts h hf
  have hargs (t : Ty) (v : t.Val)
      (hv : .encoded t v ∈ contents noteSignature.params ("Ada", none, "buffer", some "log", ())) :
      noteDispatcher.codec.Inverts t v := by
    have hv : .encoded t v ∈ [Content.encoded .text "Ada", .absent, .reference ⟨.buffer, "buffer"⟩,
      .reference ⟨.auditLog, "log"⟩] := hv
    simp only [List.mem_cons, reduceCtorEq, or_false, List.not_mem_nil] at hv
    cases hv
    exact inverts rfl (show Postcard.FitsText "Ada" by decide)
  obtain ⟨w₁, hl, hrun⟩ := call_transparent (fun _ => noteService.respond (.postcard none)) noteDispatcher noteService
    (.noting noteSignature (.error .divisionByZero)) ("Ada", none, "buffer", some "log", ()) rfl hcall rfl hargs
  have hanswer : noteDispatcher.codec.InvertsOutcome noteSignature (.ok (.error .divisionByZero)) := by
    refine ⟨inverts rfl trivial, fun bs hbs => ?_⟩
    have hbs : (Codec.postcard none).encode .calcError .divisionByZero = .ok bs := hbs
    have variant : Postcard.write .calcError .divisionByZero = .ok [0] := by
      rw [Postcard.write, Postcard.calcError, Postcard.word, Varint.write, if_pos (by decide)]
      rfl
    cases variant.symm.trans (Codec.postcard_encode_eq_ok_iff.1 hbs)
    exact inverts rfl (show Postcard.FitsRemote _ by decide)
  obtain ⟨w₂, hl', hgot⟩ := hrun _ _ rfl hanswer
  refine ⟨w₂, hgot, ?_⟩
  rw [hl'.app]
  show _ :: w₁.app = _
  rw [hl.app]
  rfl

end Loopback
