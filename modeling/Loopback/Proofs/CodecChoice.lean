/-
The choice of the codec does not change a call.

A codec without a schedule leaves no trace in the state. So a call through such a codec that gives back what it is handed
is the call with no codec at all: it is announced, the method runs on the arguments, and the outcome is settled.
- `Signature.call_of_inverts`: such a call, up to the state that it leaves;
- `call_same_through_codecs`: calls through Postcard and through JSON in both layouts are one and the same, for values
  that their JSON text gives back; those of lossless types are such values (`Travels.of_lossless`);
- `call_lost_through_json`: the text of the infinite number is `null`, which is not given back.
-/
import Loopback.Proofs.Json.RoundTrip
import Loopback.Proofs.Transparency

namespace Loopback

variable {ι σ : Type}

/-! ## Codecs without a schedule -/

section Unscheduled

variable {c : Codec} {E : ErrorType}

theorem Codec.serialize_of_encodes (hs : c.schedule = none) {t : Ty} {v : t.Val} {bs : Bytes} (h : c.Encodes t v bs)
    (w : World ι σ) : c.serialize t v w = (.ok (.ok bs), w) := by
  have h : c.encode t v = .ok bs := h
  rw [c.serialize_eq, hs, h]

/-- an argument is packed, and nothing else happens -/
theorem Passing.marshal_of_encodes (call : Call ι) (hs : call.dispatcher.codec.schedule = none) (p : Passing)
    (v : p.Val) (h : ∀ t x, p.content v = .encoded t x → ∃ bs, call.dispatcher.codec.Encodes t x bs) :
    ∃ s, (p.content v).InSlot call.dispatcher.codec.Encodes s ∧
      ∀ w : World ι σ, p.marshal call v w = (.ok (.ok (call.push p.typeName s)), w) := by
  have encoded (name : String) (t : Ty) (x : t.Val) (hx : ∃ bs, call.dispatcher.codec.Encodes t x bs) :
      ∃ s, (Content.encoded t x).InSlot call.dispatcher.codec.Encodes s ∧
        ∀ w : World ι σ, call.pushEncoded name t x w = (.ok (.ok (call.push name s)), w) := by
    obtain ⟨bs, hbs⟩ := hx
    exact ⟨.payload bs, ⟨bs, hbs, rfl⟩, fun w => bind_of_ok (Codec.serialize_of_encodes hs hbs w)⟩
  cases p with
  | value t => exact encoded _ t v (h t v rfl)
  | optional t =>
    cases v with
    | none => exact ⟨.null, rfl, fun _ => rfl⟩
    | some x => exact encoded _ t x (h t x rfl)
  | reference t => exact ⟨.reference ⟨t, v⟩, rfl, fun _ => rfl⟩
  | optionalReference t =>
    cases v with
    | none => exact ⟨.null, rfl, fun _ => rfl⟩
    | some x => exact ⟨.reference ⟨t, x⟩, rfl, fun _ => rfl⟩

/-- the arguments are packed in order, and nothing else happens -/
theorem marshal_of_encodes (ps : List Param) (vs : Args ps) (call : Call ι)
    (hs : call.dispatcher.codec.schedule = none)
    (h : ∀ t x, .encoded t x ∈ contents ps vs → ∃ bs, call.dispatcher.codec.Encodes t x bs) :
    ∃ l, Packed call.dispatcher.codec.Encodes ps vs l ∧
      ∀ w : World ι σ, marshal ps vs call w = (.ok (.ok (call.append l)), w) := by
  induction ps generalizing call with
  | nil => exact ⟨[], rfl, fun w => by simp [marshal, Call.append]; rfl⟩
  | cons p ps ih =>
    obtain ⟨v, vs⟩ := vs
    have first : ∀ t x, p.passing.content v = .encoded t x → ∃ bs, call.dispatcher.codec.Encodes t x bs := by
      intro t x hx
      refine h t x ?_
      rw [contents, hx]
      exact List.mem_cons_self
    obtain ⟨s, hslot, hpush⟩ := p.passing.marshal_of_encodes (σ := σ) call hs v first
    obtain ⟨l, hl, hrest⟩ := ih vs (call.push p.passing.typeName s) hs fun t x hx => h t x (List.mem_cons_of_mem _ hx)
    refine ⟨⟨p.passing.typeName, s⟩ :: l, ⟨s, l, rfl, hslot, hl⟩, fun w => ?_⟩
    rw [marshal, bind_of_ok (hpush w)]
    dsimp only
    rw [hrest w]
    simp [Call.append, Call.push, Invocation.push]

/-- a failure is sent in its envelope, and nothing else happens -/
theorem Invoker.failure_of_encodes (hs : c.schedule = none) {f : RemoteFailure} {bs : Bytes}
    (h : c.Encodes .remoteFailure f bs) (w : World ι σ) : Invoker.failure c f w = (.ok (.failure bs), w) :=
  bind_of_ok (Codec.serialize_of_encodes hs h w)

/-- an answer is sent, and nothing else happens -/
theorem Returning.encode_of_inverts (hs : c.schedule = none) (ret : Returning) {a : Except E.Val ret.Val}
    (h : c.InvertsAnswer E ret a) :
    ∃ res, c.SendsAnswer False E ret a res ∧ ∀ w : World ι σ, ret.encode c E a w = (.ok (.ok res), w) := by
  cases a with
  | ok v =>
    cases ret with
    | value t =>
      have inverts : c.Inverts t v := h
      obtain ⟨bs, hbs⟩ := inverts.always.1
      exact ⟨.value bs, .inl ⟨bs, hbs, rfl⟩, fun w => bind_of_ok (Codec.serialize_of_encodes hs hbs w)⟩
    | reference t => exact ⟨.reference ⟨t, v⟩, rfl, fun _ => rfl⟩
  | error e =>
    obtain ⟨error, envelope⟩ := h.declared
    obtain ⟨payload, hpayload⟩ := error.always.1
    obtain ⟨bs, hbs⟩ := (envelope payload hpayload).always.1
    have wrapped (w : World ι σ) : Invoker.declaredFailure c E e w = (.ok (.ofDeclared (E.report e) (some payload)), w) :=
      bind_of_ok (Codec.serialize_of_encodes hs hpayload w)
    have sent (w : World ι σ) : Invoker.declared c E e w = (.ok (.failure bs), w) :=
      (bind_of_ok (wrapped w)).trans (Invoker.failure_of_encodes hs hbs w)
    have sends : c.SendsAnswer False E ret (.error e) (.failure bs) := by
      cases ret <;> exact ⟨_, .inl ⟨payload, hpayload, rfl⟩, bs, .inl hbs, rfl⟩
    refine ⟨.failure bs, sends, fun w => ?_⟩
    cases ret <;> exact bind_of_ok (sent w)

end Unscheduled

/-! ## Calls without a codec -/

/-- a state with one more entry in its log -/
def World.logged (w : World ι σ) (e : LogEntry) : World ι σ := { w with log := e :: w.log }

/-- a state in which the record of a call has been announced -/
def Call.announced (call : Call ι) (sig : Signature) (w : World ι σ) : World ι σ :=
  (w.logged (.span .debug "local_invocation" ([("service", .text call.dispatcher.serviceName),
    ("method", .text sig.name)] ++ call.record.sessionId.toList.map fun id => ("session_id", .text id.text)))).logged
      (.event .trace "Dispatching local invocation" [("entry", .text call.entry),
        ("arity", .count sig.params.length), ("result_bypass", .flag sig.result.byReference)])

/-- what is left to do when a method has come to an outcome: to count it, to log it and to tell the caller -/
def Signature.settle (sig : Signature) (d : Dispatcher) (entry : String) :
    Except Panic sig.Answer → Act ι σ sig.Answer
  | .ok (.ok v) => do
    d.environment.count .successes
    return .ok v
  | .ok (.error e) => do
    d.environment.count .declared
    Act.event .debug "Local service returned a declared error"
      [("entry", .text entry), ("method", .text sig.name),
        ("error", .text ((sig.error.report e).typeName ++ ": " ++ (sig.error.report e).message))]
    return .error e
  | .error p => do
    Act.event .error "Local service panicked" [("method", .text sig.name), ("panic", .text p.message)]
    return .error (sig.error.ofInvocation (← d.reject entry sig.name (.remote (.ofPanic p))))

/-- settling an outcome only keeps books, and the caller is told the outcome -/
theorem Signature.settle_keeps (sig : Signature) (d : Dispatcher) (entry : String) (r : Except Panic sig.Answer) :
    (sig.settle d entry r : Act ι σ sig.Answer).Keeps (· = sig.told r) := by
  cases r with
  | ok a =>
    cases a with
    | ok v => exact .bind (d.environment.count_keeps _) fun _ _ => .pure rfl
    | error e => exact .bind (d.environment.count_keeps _) fun _ _ => .bind (.event _ _ _) fun _ _ => .pure rfl
  | error p =>
    refine .bind (.event _ _ _) fun _ _ => .bind (d.reject_keeps _ _ _) fun e he => .pure ?_
    rw [he]
    rfl

section Calls

variable {behave : Behaviour ι σ} {d : Dispatcher} {s : Service ι σ} {m : Method ι σ} {args : Args m.signature.params}
  {w w₀ w₁ : World ι σ} {call : Call ι}

/-- the receiving side does not add to the run of a method, but for the report of a panic -/
theorem Service.respond_of_run {c : Codec} {inv : Invocation} {r : Except Panic m.signature.Answer}
    (hs : c.schedule = none) (hm : s.method? inv.method = some m) (ha : m.signature.receive c inv = .ok args)
    (hb : m.body args w = (r, w₁)) (hr : c.InvertsOutcome m.signature r) :
    match r with
    | .ok a => ∃ res, c.SendsAnswer False m.signature.error m.signature.result a res ∧
        s.respond c inv w = (.ok res, w₁)
    | .error p => ∃ bs, c.Encodes .remoteFailure (.ofPanic p) bs ∧
        s.respond c inv w = (.ok (.failure bs), w₁.logged
          (.event .error "Local service panicked" [("method", .text inv.method), ("panic", .text p.message)])) := by
  have served : s.dispatch c inv w = (m.body args >>= m.signature.result.encode c m.signature.error) w := by
    rw [Service.dispatch_of_some hm, Method.serve_of_ok ha]
  cases r with
  | ok a =>
    obtain ⟨res, hsends, hencode⟩ := m.signature.result.encode_of_inverts (σ := σ) (ι := ι) hs hr
    have returned : s.dispatch c inv w = (.ok (.ok res), w₁) := by
      rw [served, bind_of_ok hb]
      exact hencode w₁
    exact ⟨res, hsends, Invoker.execute_returns returned⟩
  | error p =>
    have inverts : c.Inverts .remoteFailure (.ofPanic p) := hr
    obtain ⟨bs, hbs⟩ := inverts.always.1
    refine ⟨bs, hbs, ?_⟩
    have panicked : s.dispatch c inv w = (.error p, w₁) := served.trans (bind_of_error hb)
    have caught := Act.caught_eq panicked
    show Invoker.execute c inv (s.dispatch c) w = _
    unfold Invoker.execute
    rw [bind_of_ok caught]
    exact Invoker.failure_of_encodes hs hbs _

/-- bytes of a failure are read at the caller -/
theorem Returning.finish_failure (ret : Returning) (call : Call ι) (E : ErrorType) (bs : Bytes) :
    (ret.finish call E (.failure bs) : Act ι σ _) = call.unpack E bs := by
  cases ret <;> rfl

/-- the caller settles the answer that it is sent -/
theorem Signature.finish_answered (sig : Signature) {a : sig.Answer} {res : InvocationResult} (hd : call.dispatcher = d)
    (hmethod : call.method = sig.name) (ha : d.codec.InvertsAnswer sig.error sig.result a)
    (hres : d.codec.SendsAnswer False sig.error sig.result a res) :
    (sig.result.finish call sig.error res : Act ι σ _) = sig.settle d call.entry (.ok a) := by
  obtain ⟨name, ps, ret, E⟩ := sig
  subst hd
  cases a with
  | ok v =>
    cases ret with
    | value t =>
      have inverts : call.dispatcher.codec.Inverts t v := ha
      obtain ⟨bs, hbs, rfl⟩ : ∃ bs, call.dispatcher.codec.Encodes t v bs ∧ res = .value bs :=
        hres.resolve_right fun h => h.1
      have decoded : call.dispatcher.codec.decode t bs = .ok v := inverts.decodes bs hbs
      dsimp only [Returning.finish]
      rw [decoded]
      rfl
    | reference t =>
      have sent : res = .reference ⟨t, v⟩ := hres
      rw [sent]
      dsimp only [Returning.finish]
      rw [BypassValue.downcast_self]
      rfl
  | error e =>
    obtain ⟨error, wrapped⟩ := ha.declared
    have sent : ∃ f, call.dispatcher.codec.Declares False E e f ∧ call.dispatcher.codec.SendsFailure False f res := by
      cases ret <;> exact hres
    obtain ⟨f, hf, bs, hbs, rfl⟩ := sent
    obtain ⟨payload, hpayload, rfl⟩ := hf.resolve_right fun h => h.1
    have hbs := hbs.resolve_right fun h => h.1
    have envelope : call.dispatcher.codec.decode .remoteFailure bs = .ok (.ofDeclared (E.report e) (some payload)) :=
      (wrapped payload hpayload).decodes bs hbs
    have declared : call.dispatcher.codec.decode E.ty payload = .ok e := error.decodes payload hpayload
    rw [Returning.finish_failure]
    unfold Call.unpack
    rw [envelope]
    dsimp only
    rw [RemoteFailure.firstDeclaredCause_ofDeclared]
    dsimp only
    rw [declared, hmethod]
    rfl

/-- the caller settles the panic that it is told of -/
theorem Signature.finish_panicked (sig : Signature) {p : Panic} {bs : Bytes} (hd : call.dispatcher = d)
    (hmethod : call.method = sig.name) (hp : d.codec.Inverts .remoteFailure (.ofPanic p))
    (hbs : d.codec.Encodes .remoteFailure (.ofPanic p) bs) (w : World ι σ) :
    sig.result.finish call sig.error (.failure bs)
        (w.logged (.event .error "Local service panicked" [("method", .text sig.name), ("panic", .text p.message)])) =
      sig.settle d call.entry (.error p) w := by
  subst hd
  have envelope : call.dispatcher.codec.decode .remoteFailure bs = .ok (.ofPanic p) := hp.decodes bs hbs
  rw [Returning.finish_failure]
  unfold Call.unpack
  rw [envelope]
  dsimp only
  rw [RemoteFailure.ofPanic, RemoteFailure.firstDeclaredCause_new]
  unfold Call.fail Call.reject
  rw [hmethod]
  rfl

/-- **A call through a faithful codec.** Where the codec has no schedule and gives back what it is handed, the call is
announced, the method runs once on the arguments of the caller, and its outcome is settled. Nothing else happens. -/
theorem Signature.call_of_inverts (hs : d.codec.schedule = none) (hm : s.method? m.signature.name = some m)
    (hcall : d.call m.signature.name w = (.ok (.ok call), w₀)) (hinvoker : behave call.invoker = s.respond d.codec)
    (hargs : ∀ t v, .encoded t v ∈ contents m.signature.params args → d.codec.Inverts t v)
    {r : Except Panic m.signature.Answer} (hb : m.body args (call.announced m.signature w₀) = (r, w₁))
    (hr : d.codec.InvertsOutcome m.signature r) :
    m.signature.call behave d args w = m.signature.settle d call.entry r w₁ := by
  obtain ⟨-, hd, hrecord⟩ := Dispatcher.call_ok hcall
  have encodes : ∀ t x, .encoded t x ∈ contents m.signature.params args →
      ∃ bs, call.dispatcher.codec.Encodes t x bs := by
    intro t x hx
    rw [hd]
    exact (hargs t x hx).always.1
  have unscheduled : call.dispatcher.codec.schedule = none := by rw [hd, hs]
  obtain ⟨l, hl, hmarshal⟩ := marshal_of_encodes (σ := σ) m.signature.params args call unscheduled encodes
  rw [hd] at hl
  obtain ⟨hname, harguments⟩ := Call.sent_append hrecord l m.signature.result
  have received : m.signature.receive d.codec ((call.append l).sent m.signature.result) = .ok args := by
    refine Signature.receive_eq_ok_iff.2 ⟨rfl, ?_⟩
    rw [harguments]
    exact hl.mono fun t v bs hv => (hargs t v hv).decodes bs
  have arity : ((call.append l).sent m.signature.result).arity = m.signature.params.length := by
    have types := congrArg List.length hl.parameterTypes
    rw [List.length_map, List.length_map] at types
    rw [Invocation.arity, harguments, types]
  -- the announcement tells of the arguments only how many they are
  have run : (call.append l).run behave m.signature.result.byReference w₀ =
      s.respond d.codec ((call.append l).sent m.signature.result) (call.announced m.signature w₀) := by
    unfold Call.announced
    rw [← hname, ← arity, ← hinvoker]
    rfl
  have responds := Service.respond_of_run hs (by rw [hname]; exact hm) received hb hr
  rw [Signature.call_of_marshal hcall (hmarshal w₀), Returning.complete_eq_finish]
  cases r with
  | ok a =>
    obtain ⟨res, hres, hrespond⟩ := responds
    have settled := m.signature.finish_answered (σ := σ) (show (call.append l).dispatcher = d from hd) hname hr hres
    rw [bind_of_ok (run.trans hrespond), settled]
    rfl
  | error p =>
    obtain ⟨bs, hbs, hrespond⟩ := responds
    have settled := m.signature.finish_panicked (show (call.append l).dispatcher = d from hd) hname hr hbs w₁
    rw [bind_of_ok (run.trans hrespond), hname, settled]
    rfl

end Calls

/-! ## The codecs of the library -/

/-- the codecs of the library, without a limit on what they decode -/
def Codec.stock : List Codec := [.postcard none, .json .compact, .json .pretty]

theorem Codec.mem_stock_iff {c : Codec} : c ∈ stock ↔ c = postcard none ∨ ∃ ly, c = json ly := by
  simp only [stock, List.mem_cons, List.not_mem_nil, or_false]
  constructor
  · rintro (rfl | rfl | rfl)
    · exact .inl rfl
    · exact .inr ⟨.compact, rfl⟩
    · exact .inr ⟨.pretty, rfl⟩
  · rintro (rfl | ⟨ly, rfl⟩)
    · exact .inl rfl
    · cases ly with
      | compact => exact .inr (.inl rfl)
      | pretty => exact .inr (.inr rfl)

theorem Codec.schedule_of_mem_stock {c : Codec} (h : c ∈ stock) : c.schedule = none := by
  rcases mem_stock_iff.1 h with rfl | ⟨ly, rfl⟩ <;> rfl

/-- a value that each of the codecs encodes, whose lengths fit words, and that its JSON text gives back -/
structure Travels (t : Ty) (v : t.Val) : Prop where
  encodes : ∀ c ∈ Codec.stock, ∃ bs, c.Encodes t v bs
  fits : Postcard.Fits t v
  returns : ∀ ly bs, (Codec.json ly).Encodes t v bs → (Codec.json ly).Decodes t v bs

theorem Travels.inverts {t : Ty} {v : t.Val} (h : Travels t v) {c : Codec} (hc : c ∈ Codec.stock) : c.Inverts t v := by
  have encodes := h.encodes c hc
  rcases Codec.mem_stock_iff.1 hc with rfl | ⟨ly, rfl⟩
  · obtain ⟨bs, hbs⟩ := encodes
    exact Codec.postcard_inverts (Codec.postcard_encode_eq_ok_iff.1 hbs) h.fits
  · exact ⟨⟨encodes, nofun⟩, h.returns ly⟩

/-- JSON gives back the values of lossless types that nest within the limit -/
theorem Codec.json_inverts {t : Ty} {v : t.Val} (ly : Json.Layout) (ht : Json.lossless t = true)
    (hv : ¬t.Contains Json.Lacks v) (hd : (Json.document t v).depth ≤ Json.maxDepth) : (json ly).Inverts t v := by
  refine ⟨⟨⟨_, json_encode_eq_ok_iff_document.2 ⟨hv, rfl⟩⟩, nofun⟩, fun bs hbs => ?_⟩
  obtain ⟨-, rfl⟩ := json_encode_eq_ok_iff_document.1 hbs
  have reads := Json.take_reads (Json.hasFloat_of_lossless ht) (Json.not_conceals_of_lossless ht v) hv hd
  have read := Json.read_of_reads reads ly Json.blanks_nil Json.blanks_nil
  rw [List.nil_append, List.append_nil] at read
  exact json_decode_eq_ok_iff.2 read

/-- values of lossless types travel when they nest within the limit -/
theorem Travels.of_lossless {t : Ty} {v : t.Val} (ht : Json.lossless t = true) (hv : ¬t.Contains Json.Lacks v)
    (hd : (Json.document t v).depth ≤ Json.maxDepth) {bs : Bytes} (hp : Postcard.write t v = .ok bs)
    (hf : Postcard.Fits t v) : Travels t v := by
  have json (ly : Json.Layout) : (Codec.json ly).Inverts t v := Codec.json_inverts ly ht hv hd
  refine ⟨fun c hc => ?_, hf, fun ly => (json ly).decodes⟩
  rcases Codec.mem_stock_iff.1 hc with rfl | ⟨ly, rfl⟩
  · exact ⟨bs, Codec.postcard_encode_eq_ok_iff.2 hp⟩
  · exact (json ly).always.1

/-- an envelope nests four levels: its causes, each of them, and the bytes of a declared error -/
theorem depth_remoteFailure (f : RemoteFailure) : (Json.document .remoteFailure f).depth ≤ 4 := by
  have bytes (bs : Bytes) : (Json.Tree.ofDatum (.ofBytes bs)).depth ≤ 1 := by
    rw [Datum.ofBytes, Json.Tree.ofDatum, Json.Tree.ofItems_map]
    refine Json.Tree.depth_array_le_iff.2 ⟨by decide, fun t ht => ?_⟩
    obtain ⟨b, -, rfl⟩ := List.mem_map.1 ht
    exact Nat.le_refl 0
  have declared (o : Option Bytes) : (Json.Tree.ofDatum (.optional .ofBytes o)).depth ≤ 1 := by
    cases o with
    | none => exact Nat.zero_le 1
    | some bs => exact bytes bs
  have cause (c : RemoteCause) : (Json.Tree.ofDatum (.ofRemoteCause c)).depth ≤ 2 := by
    refine Json.Tree.depth_object_le_iff.2 ⟨by decide, ?_⟩
    refine List.forall_mem_cons.2 ⟨Nat.zero_le 1, List.forall_mem_cons.2 ⟨Nat.zero_le 1, ?_⟩⟩
    exact List.forall_mem_singleton.2 (declared c.declared)
  have causes : (Json.Tree.ofDatum (.list (f.causes.map .ofRemoteCause))).depth ≤ 3 := by
    rw [Json.Tree.ofDatum, Json.Tree.ofItems_map]
    refine Json.Tree.depth_array_le_iff.2 ⟨by decide, fun t ht => ?_⟩
    obtain ⟨c, -, rfl⟩ := List.mem_map.1 ht
    exact cause c
  refine Json.Tree.depth_object_le_iff.2 ⟨by decide, ?_⟩
  refine List.forall_mem_cons.2 ⟨Nat.zero_le 3, List.forall_mem_cons.2 ⟨Nat.zero_le 3, ?_⟩⟩
  exact List.forall_mem_singleton.2 causes

/-- every codec gives back the envelope of a failure; for Postcard its lengths must fit words -/
theorem Codec.inverts_remoteFailure {c : Codec} (hc : c ∈ Codec.stock) {f : RemoteFailure}
    (hf : c = .postcard none → Postcard.Fits .remoteFailure f) : c.Inverts .remoteFailure f := by
  have shallow : (Json.document .remoteFailure f).depth ≤ Json.maxDepth :=
    Nat.le_trans (depth_remoteFailure f) (by decide)
  rcases mem_stock_iff.1 hc with rfl | ⟨ly, rfl⟩
  · exact postcard_inverts rfl (hf rfl)
  · exact json_inverts ly rfl id shallow

/-- an answer travels: a result that is no reference, or a declared error, whose envelope must fit words -/
def AnswerTravels (E : ErrorType) : (r : Returning) → Except E.Val r.Val → Prop
  | .value t, .ok v => Travels t v
  | .reference _, .ok _ => True
  | _, .error e => Travels E.ty e ∧ ∀ bs, (Codec.postcard none).Encodes E.ty e bs →
      Postcard.Fits .remoteFailure (.ofDeclared (E.report e) (some bs))

/-- what comes of a run travels -/
def OutcomeTravels (sig : Signature) : Except Panic sig.Answer → Prop
  | .ok a => AnswerTravels sig.error sig.result a
  | .error p => Postcard.Fits .remoteFailure (.ofPanic p)

theorem OutcomeTravels.inverts {sig : Signature} {r : Except Panic sig.Answer} (h : OutcomeTravels sig r) {c : Codec}
    (hc : c ∈ Codec.stock) : c.InvertsOutcome sig r := by
  obtain ⟨name, ps, ret, E⟩ := sig
  cases r with
  | ok a =>
    cases a with
    | ok v =>
      cases ret with
      | value t =>
        have travels : Travels t v := h
        exact travels.inverts hc
      | reference t => trivial
    | error e =>
      have travels : Travels E.ty e ∧ ∀ bs, (Codec.postcard none).Encodes E.ty e bs →
          Postcard.Fits .remoteFailure (.ofDeclared (E.report e) (some bs)) := by
        cases ret <;> exact h
      have inverts : c.Inverts E.ty e ∧
          ∀ bs, c.Encodes E.ty e bs → c.Inverts .remoteFailure (.ofDeclared (E.report e) (some bs)) := by
        refine ⟨travels.1.inverts hc, fun bs hbs => Codec.inverts_remoteFailure hc ?_⟩
        rintro rfl
        exact travels.2 bs hbs
      cases ret <;> exact inverts
  | error p => exact Codec.inverts_remoteFailure hc fun _ => h

/-! ## The choice of the codec -/

/-- the dispatcher with another codec -/
def Dispatcher.withCodec (d : Dispatcher) (c : Codec) : Dispatcher := { d with codec := c }

/-- a call starts in the same way whatever the codec is -/
theorem Dispatcher.call_withCodec (d : Dispatcher) (c : Codec) {method : String} {w w₀ : World ι σ}
    {found : Except InvocationError (Call ι)} (h : d.call method w = (.ok found, w₀)) :
    (d.withCodec c).call method w =
      (.ok (found.map fun call => { call with dispatcher := d.withCodec c }), w₀) := by
  obtain ⟨_, w₁, hcount, -, -⟩ := d.environment.count_keeps .calls w
  obtain ⟨r, hr⟩ := d.resolve_state w₁
  have hr' : (d.withCodec c).resolve w₁ = (.ok r, w₁) := hr
  have hcount' : (d.withCodec c).environment.count .calls w = (.ok _, w₁) := hcount
  unfold call at h ⊢
  rw [bind_of_ok hcount, bind_of_ok hr] at h
  rw [bind_of_ok hcount', bind_of_ok hr']
  cases r with
  | error e =>
    obtain ⟨_, w₂, hrej, -, -⟩ := d.reject_keeps d.serviceName method e w₁
    have hrej' : (d.withCodec c).reject (d.withCodec c).serviceName method e w₁ = (.ok _, w₂) := hrej
    dsimp only at h ⊢
    rw [bind_of_ok hrej] at h
    rw [bind_of_ok hrej']
    cases h
    rfl
  | ok found =>
    cases h
    rfl

/-- **The choice of the codec.** Take a method of a service and arguments for it that travel, and let both sides use
Postcard, JSON in one line or JSON laid out.
- A call that finds no invoker fails with the same error, and leaves the same state.
- A call that finds the invoker of the service runs the method on the arguments of the caller, in the same state; if
  what comes of the run travels, the caller is told exactly that, and the call leaves the same state. -/
theorem call_same_through_codecs (deploy : Codec → Behaviour ι σ) (d : Dispatcher) (s : Service ι σ) (m : Method ι σ)
    (args : Args m.signature.params) (w : World ι σ) (hm : s.method? m.signature.name = some m)
    (hargs : ∀ t v, .encoded t v ∈ contents m.signature.params args → Travels t v) :
    (∀ e w₀, d.call m.signature.name w = (.ok (.error e), w₀) → ∀ c ∈ Codec.stock,
      m.signature.call (deploy c) (d.withCodec c) args w = (.ok (.error (m.signature.error.ofInvocation e)), w₀)) ∧
    ∀ call w₀, d.call m.signature.name w = (.ok (.ok call), w₀) →
      (∀ c ∈ Codec.stock, deploy c call.invoker = s.respond c) →
      ∃ w₁, w.Alike w₁ ∧ ∀ r w₂, m.body args w₁ = (r, w₂) → OutcomeTravels m.signature r →
        ∃ w₃, w₂.Alike w₃ ∧ ∀ c ∈ Codec.stock,
          m.signature.call (deploy c) (d.withCodec c) args w = (.ok (m.signature.told r), w₃) := by
  constructor
  · intro e w₀ h c _
    unfold Signature.call
    rw [bind_of_ok (d.call_withCodec c h)]
    rfl
  · intro call w₀ h hdeploy
    have announced : w₀.Alike (call.announced m.signature w₀) := .log w₀ _
    refine ⟨_, (Dispatcher.call_ok h).1.trans announced, fun r w₂ hb hr => ?_⟩
    obtain ⟨_, w₃, hsettle, hl, rfl⟩ := m.signature.settle_keeps d call.entry r w₂
    refine ⟨w₃, hl, fun c hc => ?_⟩
    have started := d.call_withCodec c h
    -- the announcement does not tell of the codec, so the method runs in the same state
    have announced_same : call.announced m.signature w₀ =
        Call.announced { call with dispatcher := d.withCodec c } m.signature w₀ := by
      unfold Call.announced
      rw [(Dispatcher.call_ok h).2.1]
      rfl
    rw [announced_same] at hb
    have settled := Signature.call_of_inverts (Codec.schedule_of_mem_stock hc) hm started (hdeploy c hc)
      (fun t v hv => (hargs t v hv).inverts hc) hb (hr.inverts hc)
    exact settled.trans hsettle

theorem call_same_through_codecs_note :
    ∃ w', (∀ c ∈ Codec.stock, noteSignature.call (fun _ => noteService.respond c) (noteDispatcher.withCodec c)
        ("Ada", none, "buffer", some "log", ()) (.hosting "/notes" () []) = (.ok (.error .divisionByZero), w')) ∧
      w'.app = [("Ada", none, "buffer", some "log", ())] := by
  obtain ⟨w₀, hcall⟩ := noteDispatcher.exists_call_hosting "note" () ([] : List (Args noteSignature.params)) rfl
  have hargs (t : Ty) (v : t.Val)
      (hv : .encoded t v ∈ contents noteSignature.params ("Ada", none, "buffer", some "log", ())) : Travels t v := by
    have hv : .encoded t v ∈ [Content.encoded .text "Ada", .absent, .reference ⟨.buffer, "buffer"⟩,
      .reference ⟨.auditLog, "log"⟩] := hv
    simp only [List.mem_cons, reduceCtorEq, or_false, List.not_mem_nil] at hv
    cases hv
    exact .of_lossless rfl id (by decide) rfl (show Postcard.FitsText "Ada" by decide)
  obtain ⟨-, law⟩ := call_same_through_codecs (fun c _ => noteService.respond c) noteDispatcher noteService
    (.noting noteSignature (.error .divisionByZero)) ("Ada", none, "buffer", some "log", ()) (.hosting "/notes" () []) rfl
    hargs
  obtain ⟨w₁, hl, hrun⟩ := law _ w₀ hcall fun _ _ => rfl
  have variant : Postcard.write .calcError .divisionByZero = .ok [0] := by
    rw [Postcard.write, Postcard.calcError, Postcard.word, Varint.write, if_pos (by decide)]
    rfl
  have hanswer : OutcomeTravels noteSignature (.ok (.error .divisionByZero)) := by
    refine ⟨.of_lossless rfl id (by decide) variant trivial, fun bs hbs => ?_⟩
    cases variant.symm.trans (Codec.postcard_encode_eq_ok_iff.1 hbs)
    exact (show Postcard.FitsRemote _ by decide)
  obtain ⟨w₂, hl', hsame⟩ := hrun _ _ rfl hanswer
  refine ⟨w₂, hsame, ?_⟩
  rw [hl'.app]
  show _ :: w₁.app = _
  rw [hl.app]
  rfl

/-! ## A service that gives back what it gets -/

/-- a method that notes its argument in the state and gives it back -/
def Method.echo (t : Ty) (E : ErrorType) : Method ι (List t.Val) where
  signature := ⟨"echo", [⟨"value", .value t⟩], .value t, E⟩
  body args := do
    Act.modifyApp (args.1 :: ·)
    return .ok args.1

/-- a service with this method alone -/
def echoService (t : Ty) : Service Unit (List t.Val) := ⟨"Echo", [.echo t .calculator]⟩

/-- what a proxy of the service calls through -/
def echoDispatcher : Dispatcher := ⟨"/echo", ⟨0, 0⟩, .postcard none, none⟩

/-- a call of the method with one argument -/
def echoCall (t : Ty) (c : Codec) (v : t.Val) : Act Unit (List t.Val) (Except Sample.CalcError t.Val) :=
  (Method.echo (ι := Unit) t .calculator).signature.call (fun _ => (echoService t).respond c)
    (echoDispatcher.withCodec c) (v, ())

/-- the bits of the positive infinite number -/
def infiniteBits : UInt64 := 0x7ff0000000000000

set_option maxRecDepth 4000 in
/-- **A call lost on its way.** Every codec encodes the infinite number. Through Postcard the method gets it and the
caller gets it back; through JSON it becomes `null`, the method does not run and the caller is told of a failure. -/
theorem call_lost_through_json :
    (∀ c ∈ Codec.stock, ∃ bs, c.Encodes .f64 infiniteBits bs) ∧
      (∃ w', echoCall .f64 (.postcard none) infiniteBits (.hosting "/echo" () []) = (.ok (.ok infiniteBits), w') ∧
        w'.app = [infiniteBits]) ∧
      ∃ f w', echoCall .f64 (.json .compact) infiniteBits (.hosting "/echo" () []) =
        (.ok (.error (.invocation (.remote f))), w') ∧ w'.app = [] := by
  refine ⟨fun c hc => ?_, ⟨_, rfl, rfl⟩, ⟨_, _, rfl, rfl⟩⟩
  rcases Codec.mem_stock_iff.1 hc with rfl | ⟨ly, rfl⟩
  · exact ⟨_, rfl⟩
  · exact ⟨_, rfl⟩

end Loopback
