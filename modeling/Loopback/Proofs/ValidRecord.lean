/-
A method runs only on a valid record.

A record is valid for a signature when its types are the declared ones, it expects the result in the declared way, and each
of its slots is admitted for its parameter. The service that notes its runs tells how often a method ran.
- `Signature.valid_iff`: the valid records are those from which arguments are received;
- `runs_only_on_valid_record`: the methods run at most once, and once exactly on a valid record; any other record leaves the
  services as they were and is answered with a failure that no caller takes for a declared error.
-/
import Mathlib.Data.List.Forall2
import Loopback.Proofs.Counting
import Loopback.Proofs.Recording
import Loopback.Proofs.Transparency

namespace Loopback

variable {ι σ : Type}

/-! ## Valid records -/

/-- a slot that is admitted for a parameter: bytes that decode, a value of the declared type by reference, or null where
the argument may be absent -/
inductive Passing.Admits (codec : Codec) : Passing → Slot → Prop
  | value {t : Ty} {v : t.Val} {bs : Bytes} (h : codec.decode t bs = .ok v) : Admits codec (.value t) (.payload bs)
  | optional {t : Ty} {v : t.Val} {bs : Bytes} (h : codec.decode t bs = .ok v) : Admits codec (.optional t) (.payload bs)
  | absent {t : Ty} : Admits codec (.optional t) .null
  | reference {t : AnyTy} {v : t.Val} : Admits codec (.reference t) (.reference ⟨t, v⟩)
  | optionalReference {t : AnyTy} {v : t.Val} : Admits codec (.optionalReference t) (.reference ⟨t, v⟩)
  | absentReference {t : AnyTy} : Admits codec (.optionalReference t) .null

/-- a record that is valid for a method -/
structure Signature.Valid (sig : Signature) (codec : Codec) (inv : Invocation) : Prop where
  types : inv.parameterTypes = sig.types
  result : inv.resultByReference = sig.result.byReference
  slots : List.Forall₂ (fun p a => p.passing.Admits codec a.slot) sig.params inv.arguments

/-- a record that names a method and is valid for it -/
def Service.Accepts (s : Service ι σ) (codec : Codec) (inv : Invocation) : Prop :=
  ∃ m, s.method? inv.method = some m ∧ m.signature.Valid codec inv

section Validity

variable {codec : Codec} {inv : Invocation}

/-- a slot is admitted when it holds some argument -/
theorem Passing.admits_iff {p : Passing} {s : Slot} :
    p.Admits codec s ↔ ∃ v, (p.content v).InSlot codec.Decodes s := by
  constructor
  · intro h
    cases h with
    | @value t v bs h => exact ⟨v, bs, h, rfl⟩
    | @optional t v bs h => exact ⟨some v, bs, h, rfl⟩
    | absent => exact ⟨none, rfl⟩
    | @reference t v => exact ⟨v, rfl⟩
    | @optionalReference t v => exact ⟨some v, rfl⟩
    | absentReference => exact ⟨none, rfl⟩
  · rintro ⟨v, hv⟩
    cases p with
    | value t =>
      obtain ⟨bs, h, rfl⟩ := hv
      exact .value h
    | optional t =>
      cases v with
      | none =>
        cases hv
        exact .absent
      | some v =>
        obtain ⟨bs, h, rfl⟩ := hv
        exact .optional h
    | reference t =>
      cases hv
      exact .reference
    | optionalReference t =>
      cases v with
      | none =>
        cases hv
        exact .absentReference
      | some v =>
        cases hv
        exact .optionalReference

/-- slots under the declared types that are all admitted pack some arguments -/
theorem exists_packed_iff {ps : List Param} {l : List Argument} :
    (∃ args, Packed codec.Decodes ps args l) ↔
      l.map (·.typeName) = ps.map (·.passing.typeName) ∧
        List.Forall₂ (fun p a => p.passing.Admits codec a.slot) ps l := by
  induction ps generalizing l with
  | nil =>
    constructor
    · rintro ⟨_, h⟩
      have h : l = [] := h
      subst h
      exact ⟨rfl, .nil⟩
    · rintro ⟨-, h⟩
      cases h
      exact ⟨(), rfl⟩
  | cons p ps ih =>
    constructor
    · rintro ⟨⟨v, vs⟩, s, r, rfl, hs, hr⟩
      obtain ⟨types, slots⟩ := ih.1 ⟨vs, hr⟩
      exact ⟨by rw [List.map_cons, List.map_cons, types], .cons (Passing.admits_iff.2 ⟨v, hs⟩) slots⟩
    · rintro ⟨types, slots⟩
      cases slots with
      | @cons _ a _ r hs slots =>
        obtain ⟨name, slot⟩ := a
        obtain ⟨rfl, others⟩ := List.cons.inj types
        obtain ⟨v, hv⟩ := Passing.admits_iff.1 hs
        obtain ⟨vs, hvs⟩ := ih.2 ⟨others, slots⟩
        exact ⟨(v, vs), slot, r, rfl, hv, hvs⟩

/-- **Valid records** are those from which arguments are received. -/
theorem Signature.valid_iff {sig : Signature} : sig.Valid codec inv ↔ ∃ args, sig.receive codec inv = .ok args := by
  constructor
  · rintro ⟨types, result, slots⟩
    obtain ⟨args, h⟩ := exists_packed_iff.2 ⟨types, slots⟩
    exact ⟨args, receive_eq_ok_iff.2 ⟨result, h⟩⟩
  · rintro ⟨args, h⟩
    obtain ⟨result, h⟩ := receive_eq_ok_iff.1 h
    obtain ⟨types, slots⟩ := exists_packed_iff.1 ⟨args, h⟩
    exact ⟨types, result, slots⟩

variable {s : Service ι σ}

theorem Service.accepts_iff :
    s.Accepts codec inv ↔ ∃ m args, s.method? inv.method = some m ∧ m.signature.receive codec inv = .ok args := by
  constructor
  · rintro ⟨m, hm, hv⟩
    obtain ⟨args, ha⟩ := Signature.valid_iff.1 hv
    exact ⟨m, args, hm, ha⟩
  · rintro ⟨m, args, hm, ha⟩
    exact ⟨m, hm, Signature.valid_iff.2 ⟨args, ha⟩⟩

/-- a record that is not accepted is rejected -/
theorem Service.exists_rejects (h : ¬s.Accepts codec inv) : ∃ e, s.Rejects codec inv e := by
  cases hm : s.method? inv.method with
  | none => exact ⟨_, .unknown hm⟩
  | some m =>
    cases ha : m.signature.receive codec inv with
    | error e => exact ⟨e, .unfit hm ha⟩
    | ok args => exact absurd (accepts_iff.2 ⟨m, args, hm, ha⟩) h

end Validity

/-! ## Responding -/

section Responding

variable {s : Service ι σ} {codec : Codec} {inv : Invocation}

/-- a service always responds -/
theorem Service.respond_ok (s : Service ι σ) (codec : Codec) (inv : Invocation) (w : World ι σ) :
    ∃ r w', s.respond codec inv w = (.ok r, w') := by
  have sent (f : RemoteFailure) : True ∨ codec.AlwaysEncodes .remoteFailure f := .inl trivial
  cases h : s.dispatch codec inv w with
  | mk r w' =>
    rcases r with p | e | r
    · obtain ⟨r, w'', hr, -, -⟩ := Invoker.execute_panics h (sent _)
      exact ⟨r, w'', hr⟩
    · obtain ⟨r, w'', hr, -, -⟩ := Invoker.execute_rejects h (sent _)
      exact ⟨r, w'', hr⟩
    · exact ⟨r, w', Invoker.execute_returns h⟩

/-- a rejected record leaves the services alone and is answered with the failure of its rejection -/
theorem Service.respond_of_rejects {lossy : Prop} {e : InvocationError} (h : s.Rejects codec inv e)
    (hc : lossy ∨ codec.AlwaysEncodes .remoteFailure (.ofRejection e)) (w : World ι σ) :
    ∃ r w', s.respond codec inv w = (.ok r, w') ∧ w.Alike w' ∧ codec.SendsFailure lossy (.ofRejection e) r := by
  have rejected : s.dispatch codec inv w = (.ok (.error e), w) := by
    cases h with
    | unknown hm =>
      rw [dispatch, hm]
      rfl
    | unfit hm he =>
      rw [dispatch_of_some hm, Method.serve_of_error he]
      rfl
  exact Invoker.execute_rejects rejected hc

/-- an answer that no caller takes for a declared error: the failure envelope of a rejection, for a codec that gives such an
envelope back -/
def Codec.Refuses (codec : Codec) (e : InvocationError) (r : InvocationResult) : Prop :=
  ∃ bs, r = .failure bs ∧ (codec.Inverts .remoteFailure (.ofRejection e) →
    ∃ f, codec.decode .remoteFailure bs = .ok f ∧ f.typeName = "localrpc::InvocationError" ∧
      f.firstDeclaredCause = none ∧ ∀ E : ErrorType, (∀ e', ¬codec.Unwraps E r e') ∧
        ∀ (ret : Returning) (method : String), ret.receive codec E method r = .error (E.ofInvocation (.remote f)))

theorem Codec.refuses_of_sends {e : InvocationError} {r : InvocationResult}
    (h : codec.SendsFailure (¬codec.AlwaysEncodes .remoteFailure (.ofRejection e)) (.ofRejection e) r) :
    codec.Refuses e r := by
  obtain ⟨bs, hs, rfl⟩ := h
  refine ⟨bs, rfl, fun hinverts => ?_⟩
  have encoded : codec.Encodes .remoteFailure (.ofRejection e) bs := hs.resolve_right fun h => h.1 hinverts.always
  have decoded : codec.decode .remoteFailure bs = .ok (.ofRejection e) := hinverts.decodes bs encoded
  have undeclared : (RemoteFailure.ofRejection e).firstDeclaredCause = none := RemoteFailure.firstDeclaredCause_new _ _
  refine ⟨_, decoded, rfl, undeclared, fun E => ⟨?_, fun ret method => ?_⟩⟩
  · rintro e' ⟨_, f, payload, hbs, hf, hcause, -⟩
    cases hbs
    cases decoded.symm.trans hf
    cases undeclared.symm.trans hcause
  · rw [ret.receive_failure, receivedError, decoded]
    exact congrArg _ (codec.unwrapped_new _ _)

/-- how a service responds to a record, in a state where `runs` were noted: with what it responds to it without noting
anything, and with `runs'` noted then -/
structure Service.Guards (s : Service ι σ) (codec : Codec) (inv : Invocation) (w : World ι σ) (runs : List MethodRun)
    (r : InvocationResult) (w' : World ι σ) (runs' : List MethodRun) : Prop where
  plain : s.respond codec inv w = (.ok r, w')
  noted : s.recorded.respond codec inv (w.beside runs) = (.ok r, w'.beside runs')
  /-- at most one method runs, and at most once -/
  once : runs' = runs ∨ ∃ run, runs' = run :: runs
  /-- a method runs exactly on a valid record -/
  valid : (∃ run, runs' = run :: runs) ↔ s.Accepts codec inv
  /-- it is the method that the record names, on the arguments that are received -/
  named : ∀ run, runs' = run :: runs →
    ∃ m, s.method? inv.method = some m ∧ run.signature = m.signature ∧ run.signature.receive codec inv = .ok run.args
  /-- any other record leaves the services alone and is refused -/
  refused : ¬s.Accepts codec inv → w.Alike w' ∧ ∃ e, s.Rejects codec inv e ∧ codec.Refuses e r

/-- **Only on a valid record.** Whatever the record, the service runs a method at most once, and once exactly on a valid
record; any other record is refused. -/
theorem runs_only_on_valid_record (s : Service ι σ) (codec : Codec) (inv : Invocation) (w : World ι σ)
    (runs : List MethodRun) :
    ∃ r w' runs', s.Guards codec inv w runs r w' runs' := by
  by_cases h : s.Accepts codec inv
  · obtain ⟨m, args, hm, ha⟩ := Service.accepts_iff.1 h
    obtain ⟨r, w', hr⟩ := s.respond_ok codec inv w
    have mirrored := Service.respond_mirrors_run runs hm ha w
    rw [hr] at mirrored
    refine ⟨r, w', _, hr, mirrored, .inr ⟨_, rfl⟩, ⟨fun _ => h, fun _ => ⟨_, rfl⟩⟩, ?_, absurd h⟩
    intro run hrun
    cases hrun
    exact ⟨m, hm, rfl, ha⟩
  · obtain ⟨e, he⟩ := Service.exists_rejects h
    obtain ⟨r, w', hr, hl, hsent⟩ := Service.respond_of_rejects he (Classical.em _).symm w
    have mirrored := Service.respond_mirrors_rejection runs he w
    rw [hr] at mirrored
    have never (run : MethodRun) (hrun : runs = run :: runs) : False := List.cons_ne_self run runs hrun.symm
    exact ⟨r, w', runs, hr, mirrored, .inl rfl, ⟨fun ⟨run, hrun⟩ => (never run hrun).elim, fun ha => absurd ha h⟩,
      fun run hrun => (never run hrun).elim, fun _ => ⟨hl, e, he, Codec.refuses_of_sends hsent⟩⟩

end Responding

/-- a record of the service for notes; the bytes are those of a text of three letters -/
def noteRecord : Invocation where
  method := "note"
  arguments := [⟨Ty.text.name, .payload [3, 65, 100, 97]⟩, ⟨optionalName Ty.text.name, .null⟩,
    ⟨AnyTy.buffer.name, .reference ⟨.buffer, "buffer"⟩⟩, ⟨optionalName AnyTy.auditLog.name, .null⟩]
  resultByReference := false
  sessionId := none
  attributes := .absent

/-- the record makes the method run; a record without arguments does not -/
theorem runs_only_on_valid_record_note :
    (∃ r w' run, noteService.Guards (.postcard none) noteRecord (.initial []) [] r w' [run]) ∧
      ∃ bs w', noteService.Guards (.postcard none) (.start "note") (.initial []) [] (.failure bs) w' [] := by
  constructor
  · obtain ⟨r, w', runs, h⟩ := runs_only_on_valid_record noteService (.postcard none) noteRecord (.initial []) []
    have decoded : (Codec.postcard none).decode .text [3, 65, 100, 97] = .ok "Ada" := rfl
    have slots : List.Forall₂ (fun p a => p.passing.Admits (.postcard none) a.slot) noteSignature.params
        noteRecord.arguments := .cons (.value decoded) (.cons .absent (.cons .reference (.cons .absentReference .nil)))
    have accepted : noteService.Accepts (.postcard none) noteRecord := ⟨_, rfl, rfl, rfl, slots⟩
    obtain ⟨run, rfl⟩ := h.valid.2 accepted
    exact ⟨r, w', run, h⟩
  · obtain ⟨r, w', runs, h⟩ := runs_only_on_valid_record noteService (.postcard none) (.start "note") (.initial []) []
    have refused : ¬noteService.Accepts (.postcard none) (.start "note") := by
      rintro ⟨m, hm, hv⟩
      cases hm
      cases hv.slots
    obtain ⟨-, e, -, bs, rfl, -⟩ := h.refused refused
    rcases h.once with rfl | hrun
    · exact ⟨bs, w', h⟩
    · exact absurd (h.valid.1 hrun) refused

end Loopback
