/-
What the receiving side learns of the session of a caller.

The attributes of a session belong to its user, and travel with a call only when they belong to the current request. Two
contexts are alike when they differ in nothing else: in the attributes of a private session, or in whether such a session
is there beside its id.
- `SecurityContext.alike_iff`: alike contexts are those with the same id and the same attributes that travel;
- `Signature.call_of_alike`: a call does the same through dispatchers with alike contexts, to the last detail;
- `Signature.handsOver`: a call hands over one record or none, and all that the record tells of the caller is in a table;
- `session_private`: whatever a client does, it gets the same answers, leaves the same state and hands over the same
  records with alike contexts.
-/
import Mathlib.Data.List.Forall2
import Loopback.Proofs.HandedOver

namespace Loopback

variable {ι σ τ κ : Type}

/-! ## Alike contexts -/

namespace SecurityContext

/-- two contexts that differ at most in what is private: the attributes of a session that is not bound to a request, or
whether such a session is there beside its id -/
inductive Alike : SecurityContext → SecurityContext → Prop
  | refl (c : SecurityContext) : Alike c c
  | attributes (id : Uuid) (a a' : Attributes) : Alike (.ofSession ⟨id, a, false⟩) (.ofSession ⟨id, a', false⟩)
  | forgotten (id : Uuid) (a : Attributes) : Alike (.ofSession ⟨id, a, false⟩) (.ofId id)
  | found (id : Uuid) (a : Attributes) : Alike (.ofId id) (.ofSession ⟨id, a, false⟩)

variable {c c' : SecurityContext}

/-- contexts are alike exactly when the id and what travels are the same -/
theorem alike_iff : c.Alike c' ↔ c.sessionId = c'.sessionId ∧ c.travelling = c'.travelling := by
  constructor
  · intro h
    cases h <;> exact ⟨rfl, rfl⟩
  · rintro ⟨hid, htravel⟩
    cases c with
    | ofId id =>
      cases hid
      cases c' with
      | ofId id' => exact .refl _
      | ofSession s =>
        obtain ⟨id', a, own⟩ := s
        cases own with
        | false => exact .found id' a
        | true => cases htravel
    | ofSession s =>
      obtain ⟨id, a, own⟩ := s
      cases hid
      cases c' with
      | ofId id' =>
        cases own with
        | false => exact .forgotten id' a
        | true => cases htravel
      | ofSession s' =>
        obtain ⟨id', a', own'⟩ := s'
        cases own <;> cases own'
        · exact .attributes id' a a'
        · cases htravel
        · cases htravel
        · cases htravel
          exact .refl _

/-- a record to which alike contexts are attached is the same -/
theorem Alike.attach_eq (h : c.Alike c') (inv : Invocation) : inv.attach c = inv.attach c' := by
  obtain ⟨hid, htravel⟩ := alike_iff.1 h
  unfold Invocation.attach
  rw [hid, htravel]

end SecurityContext

/-- dispatchers that differ at most in what is private of their contexts -/
structure Dispatcher.Alike (d d' : Dispatcher) : Prop where
  rest : d' = { d with securityContext := d'.securityContext }
  context : Option.Rel SecurityContext.Alike d.securityContext d'.securityContext

/-- factories that differ at most in what is private of their contexts -/
structure ProxyFactory.Alike (f f' : ProxyFactory) : Prop where
  rest : f' = { f with securityContext := f'.securityContext }
  context : Option.Rel SecurityContext.Alike f.securityContext f'.securityContext

/-- calls through alike dispatchers begin with the same record -/
theorem Dispatcher.Alike.firstRecord_eq {d d' : Dispatcher} (h : d.Alike d') (method : String) :
    d.firstRecord method = d'.firstRecord method := by
  have context := h.context
  unfold firstRecord
  cases hd : d.securityContext with
  | none =>
    rw [hd] at context
    cases hd' : d'.securityContext with
    | none => rfl
    | some c' =>
      rw [hd'] at context
      cases context
  | some c =>
    rw [hd] at context
    cases hd' : d'.securityContext with
    | none =>
      rw [hd'] at context
      cases context
    | some c' =>
      rw [hd'] at context
      cases context with
      | some hc => exact hc.attach_eq _

/-! ## Calls under another context -/

/-- the call under another context; its record stays -/
def Call.under (x : Option SecurityContext) (c : Call ι) : Call ι :=
  { c with dispatcher := { c.dispatcher with securityContext := x } }

section Under

variable (x : Option SecurityContext)

theorem Call.pushEncoded_under (c : Call ι) (name : String) (t : Ty) (v : t.Val) :
    ((c.under x).pushEncoded name t v : Act ι σ _) = Except.map (Call.under x) <$> c.pushEncoded name t v := by
  unfold pushEncoded
  rw [map_bind]
  refine bind_congr fun r => ?_
  cases r with
  | ok bs => rfl
  | error e => rfl

theorem Passing.marshal_under (c : Call ι) (p : Passing) (v : p.Val) :
    (p.marshal (c.under x) v : Act ι σ _) = Except.map (Call.under x) <$> p.marshal c v := by
  cases p with
  | value t => exact c.pushEncoded_under x t.name t v
  | optional t =>
    cases v with
    | none => rfl
    | some v => exact c.pushEncoded_under x (optionalName t.name) t v
  | reference t => rfl
  | optionalReference t => rfl

/-- the arguments are added in the same way -/
theorem marshal_under (ps : List Param) (vs : Args ps) (c : Call ι) :
    (marshal ps vs (c.under x) : Act ι σ _) = Except.map (Call.under x) <$> marshal ps vs c := by
  induction ps generalizing c with
  | nil => rfl
  | cons p ps ih =>
    obtain ⟨v, vs⟩ := vs
    rw [marshal, marshal, Passing.marshal_under, bind_map_left, map_bind]
    refine bind_congr fun r => ?_
    cases r with
    | ok c => exact ih vs c
    | error e => rfl

/-- the call is completed in the same way -/
theorem Returning.complete_under (behave : Behaviour ι σ) (c : Call ι) (E : ErrorType) (r : Returning) :
    r.complete behave (c.under x) E = r.complete behave c E := by
  cases r <;> rfl

end Under

/-- a call that begins with the same record under another context starts in the same way -/
theorem Dispatcher.call_under (d : Dispatcher) (x : Option SecurityContext) (method : String)
    (h : ({ d with securityContext := x } : Dispatcher).firstRecord method = d.firstRecord method) :
    (({ d with securityContext := x } : Dispatcher).call method : Act ι σ _) =
      Except.map (Call.under x) <$> d.call method := by
  unfold call
  rw [map_bind]
  refine bind_congr fun _ => ?_
  rw [map_bind]
  refine bind_congr fun r => ?_
  cases r with
  | error e =>
    dsimp only
    rw [map_bind]
    rfl
  | ok found =>
    obtain ⟨entry, invoker⟩ := found
    show pure (Except.ok (Call.mk _ entry invoker (firstRecord _ method))) = _
    rw [h]
    rfl

/-- **A call** does the same through alike dispatchers, for every behaviour of the invokers. -/
theorem Signature.call_of_alike {d d' : Dispatcher} (h : d.Alike d') (behave : Behaviour ι σ) (sig : Signature)
    (args : Args sig.params) : sig.call behave d args = sig.call behave d' args := by
  have started := d.call_under (σ := σ) (ι := ι) d'.securityContext sig.name (by rw [← h.rest, h.firstRecord_eq])
  rw [← h.rest] at started
  unfold Signature.call
  rw [started, bind_map_left]
  refine bind_congr fun r => ?_
  cases r with
  | error e => rfl
  | ok c =>
    show _ = marshal sig.params args (c.under d'.securityContext) >>= _
    rw [marshal_under, bind_map_left]
    refine bind_congr fun r => ?_
    cases r with
    | error e => rfl
    | ok c => exact (Returning.complete_under _ behave c sig.error sig.result).symm

/-! ## Making proxies -/

theorem Dispatcher.Alike.refl (d : Dispatcher) : d.Alike d := by
  refine ⟨rfl, ?_⟩
  cases d.securityContext with
  | none => exact .none
  | some c => exact .some (.refl c)

theorem Dispatcher.Alike.withSecurityContext {d d' : Dispatcher} (h : d.Alike d') {c c' : SecurityContext}
    (hc : c.Alike c') : (d.withSecurityContext c).Alike (d'.withSecurityContext c') := by
  rw [h.rest]
  exact ⟨rfl, .some hc⟩

namespace ProxyFactory.Alike

variable {f f' : ProxyFactory}

theorem withEnvironment (h : f.Alike f') (env : Environment) : (f.withEnvironment env).Alike (f'.withEnvironment env) := by
  rw [h.rest]
  exact ⟨rfl, h.context⟩

theorem withCodec (h : f.Alike f') (codec : Codec) : (f.withCodec codec).Alike (f'.withCodec codec) := by
  rw [h.rest]
  exact ⟨rfl, h.context⟩

theorem withSecurityContext (h : f.Alike f') {c c' : SecurityContext} (hc : c.Alike c') :
    (f.withSecurityContext c).Alike (f'.withSecurityContext c') := by
  rw [h.rest]
  exact ⟨rfl, .some hc⟩

/-- alike factories make alike proxies, or fail in the same way -/
theorem create (h : f.Alike f') (interface service : String) (w : World ι σ) :
    (∃ e w', f.create interface service w = (.ok (.error e), w') ∧
      f'.create interface service w = (.ok (.error e), w')) ∨
    ∃ d d' w', f.create interface service w = (.ok (.ok d), w') ∧ f'.create interface service w = (.ok (.ok d'), w') ∧
      d.Alike d' := by
  obtain ⟨env, codec, x⟩ := f
  obtain ⟨env', codec', x'⟩ := f'
  cases h.rest
  have context : Option.Rel SecurityContext.Alike x x' := h.context
  unfold ProxyFactory.create
  dsimp only
  cases Dispatcher.new service env codec with
  | error e => exact .inl ⟨e, w, rfl, rfl⟩
  | ok d =>
    refine .inr ⟨_, _, _, rfl, rfl, ?_⟩
    cases context with
    | none => exact .refl d
    | some hc => exact (Dispatcher.Alike.refl d).withSecurityContext hc

end ProxyFactory.Alike

/-! ## Clients -/

/-- what a client does with a factory, with proxies that are numbered in the order in which they are made, and with
contexts that it knows by their names; it may go on as it is answered -/
inductive Client (ι σ κ : Type) : Type
  | done
  /-- the factory gets another environment -/
  | route (env : Environment) (next : Client ι σ κ)
  /-- the factory gets another codec -/
  | encode (codec : Codec) (next : Client ι σ κ)
  /-- a context is attached to the factory -/
  | equip (k : κ) (next : Client ι σ κ)
  /-- a proxy is made by the factory -/
  | create (interface service : String) (next : Option InvocationError → Client ι σ κ)
  /-- a proxy is made without the factory -/
  | bind (service : String) (env : Environment) (codec : Codec) (next : Option InvocationError → Client ι σ κ)
  /-- a context is attached to a copy of a proxy -/
  | attach (i : Nat) (k : κ) (next : Client ι σ κ)
  /-- a method of a proxy is called -/
  | call (i : Nat) (sig : Signature) (args : Args sig.params) (next : sig.Answer → Client ι σ κ)
  /-- anything else happens -/
  | elsewhere (change : World ι σ → World ι σ) (next : Client ι σ κ)

/-- an answer that a client got -/
structure Answered where
  signature : Signature
  answer : signature.Answer

/-- run a client that knows contexts by their names; it returns the answers, and the records that were handed over are
noted -/
def Client.run (behave : Behaviour ι σ) (context : κ → SecurityContext) :
    Client ι σ κ → ProxyFactory → List Dispatcher → Act ι (σ × List (ι × Invocation)) (List Answered)
  | .done, _, _ => return []
  | .route env next, f, ds => next.run behave context (f.withEnvironment env) ds
  | .encode codec next, f, ds => next.run behave context (f.withCodec codec) ds
  | .equip k next, f, ds => next.run behave context (f.withSecurityContext (context k)) ds
  | .create interface service next, f, ds => do
    match ← f.create interface service with
    | .error e => (next (some e)).run behave context f ds
    | .ok d => (next none).run behave context f (ds ++ [d])
  | .bind service env codec next, f, ds =>
    match Dispatcher.new service env codec with
    | .error e => (next (some e)).run behave context f ds
    | .ok d => (next none).run behave context f (ds ++ [d])
  | .attach i k next, f, ds =>
    match ds[i]? with
    | none => next.run behave context f ds
    | some d => next.run behave context f (ds ++ [d.withSecurityContext (context k)])
  | .call i sig args next, f, ds =>
    match ds[i]? with
    | none => return []
    | some d => do
      let answer ← sig.call (Behaviour.noting behave) d args
      let rest ← (next answer).run behave context f ds
      return ⟨sig, answer⟩ :: rest
  | .elsewhere change next, f, ds => do
    (modify change : Act ι σ Unit).beside
    next.run behave context f ds

/-- alike proxies have the same numbers -/
theorem Dispatcher.Alike.getElem? {ds ds' : List Dispatcher} (h : List.Forall₂ Dispatcher.Alike ds ds') (i : Nat) :
    Option.Rel Dispatcher.Alike ds[i]? ds'[i]? := by
  induction h generalizing i with
  | nil => exact .none
  | cons hd _ ih =>
    cases i with
    | zero => exact .some hd
    | succ i => exact ih i

theorem Dispatcher.Alike.concat {ds ds' : List Dispatcher} (h : List.Forall₂ Dispatcher.Alike ds ds')
    {d d' : Dispatcher} (hd : d.Alike d') : List.Forall₂ Dispatcher.Alike (ds ++ [d]) (ds' ++ [d']) :=
  List.rel_append h (.cons hd .nil)

/-- **Two runs** of a client with alike contexts do the same. -/
theorem Client.run_alike {context context' : κ → SecurityContext} (h : ∀ k, (context k).Alike (context' k))
    (behave : Behaviour ι σ) (client : Client ι σ κ) {f f' : ProxyFactory} {ds ds' : List Dispatcher} (hf : f.Alike f')
    (hds : List.Forall₂ Dispatcher.Alike ds ds') :
    client.run behave context f ds = client.run behave context' f' ds' := by
  induction client generalizing f f' ds ds' with
  | done => rfl
  | route env next ih => exact ih (hf.withEnvironment env) hds
  | encode codec next ih => exact ih (hf.withCodec codec) hds
  | equip k next ih => exact ih (hf.withSecurityContext (h k)) hds
  | create interface service next ih =>
    funext w
    unfold Client.run
    rcases hf.create interface service w with ⟨e, w', hc, hc'⟩ | ⟨d, d', w', hc, hc', hd⟩
    · rw [bind_of_ok hc, bind_of_ok hc']
      exact congrFun (ih (some e) hf hds) w'
    · rw [bind_of_ok hc, bind_of_ok hc']
      exact congrFun (ih none hf (Dispatcher.Alike.concat hds hd)) w'
  | bind service env codec next ih =>
    unfold Client.run
    cases Dispatcher.new service env codec with
    | error e => exact ih (some e) hf hds
    | ok d => exact ih none hf (Dispatcher.Alike.concat hds (.refl d))
  | attach i k next ih =>
    have number := Dispatcher.Alike.getElem? hds i
    unfold Client.run
    generalize ds[i]? = x, ds'[i]? = x' at number ⊢
    cases number with
    | none => exact ih hf hds
    | some hd => exact ih hf (Dispatcher.Alike.concat hds (hd.withSecurityContext (h k)))
  | call i sig args next ih =>
    have number := Dispatcher.Alike.getElem? hds i
    unfold Client.run
    generalize ds[i]? = x, ds'[i]? = x' at number ⊢
    cases number with
    | none => rfl
    | some hd =>
      dsimp only
      rw [Signature.call_of_alike hd]
      refine bind_congr fun answer => ?_
      rw [ih answer hf hds]
  | elsewhere change next ih => exact bind_congr fun _ => ih hf hds

/-! ## The last context -/

/-- of contexts that are attached one after the other the last one counts -/
theorem attached_foldl {α : Type} (attach : α → SecurityContext → α) (attached : α → Option SecurityContext)
    (h : ∀ a c, attached (attach a c) = some c) (a : α) (cs : List SecurityContext) :
    attached (cs.foldl attach a) = cs.getLast?.or (attached a) := by
  induction cs generalizing a with
  | nil => rfl
  | cons c cs ih =>
    rw [List.foldl_cons, ih, h, List.getLast?_cons]
    cases cs.getLast? <;> rfl

/-- a new proxy has the context of its factory -/
theorem ProxyFactory.securityContext_of_create {f : ProxyFactory} {interface service : String} {w w' : World ι σ}
    {d : Dispatcher} (h : f.create interface service w = (.ok (.ok d), w')) :
    d.securityContext = f.securityContext := by
  unfold create at h
  cases hd : Dispatcher.new service f.environment f.codec with
  | error e =>
    rw [hd] at h
    cases h
  | ok d₀ =>
    rw [hd] at h
    cases h
    cases hx : f.securityContext with
    | some c => rfl
    | none =>
      unfold Dispatcher.new at hd
      cases hn : ServiceName.normalize service with
      | error e =>
        rw [hn] at hd
        cases hd
      | ok name =>
        rw [hn] at hd
        cases hd
        rfl

/-- **Private sessions.** With contexts that are alike, and factories and proxies that are so from the beginning, a
client gets the same answers, leaves the same state and hands over the same records, whatever it does. Of the contexts
that were attached to a factory and then to a proxy the last one counts. Each call hands over one record or is refused,
and the record tells of the context of its proxy what is in the table: the id and the attributes of a session that is
bound to the request, the id alone of any other, and nothing at all without a context. -/
theorem session_private {context context' : κ → SecurityContext} (h : ∀ k, (context k).Alike (context' k))
    (behave : Behaviour ι σ) :
    (∀ (client : Client ι σ κ) (f f' : ProxyFactory) (ds ds' : List Dispatcher), f.Alike f' →
      List.Forall₂ Dispatcher.Alike ds ds' → client.run behave context f ds = client.run behave context' f' ds') ∧
    (∀ (f : ProxyFactory) (cs ds : List SecurityContext) (interface service : String) (w w' : World ι σ) (d : Dispatcher),
      (cs.foldl ProxyFactory.withSecurityContext f).create interface service w = (.ok (.ok d), w') →
        (ds.foldl Dispatcher.withSecurityContext d).securityContext = (cs ++ ds).getLast?.or f.securityContext) ∧
    ∀ (d : Dispatcher) (sig : Signature) (args : Args sig.params) (w : World ι σ),
      ∃ handed, sig.HandsOver behave d args w handed := by
  refine ⟨fun client f f' ds ds' hf hds => client.run_alike h behave hf hds,
    fun f cs ds interface service w w' d hd => ?_, fun d sig args w => sig.handsOver behave d args w⟩
  have made : (cs.foldl ProxyFactory.withSecurityContext f).securityContext = cs.getLast?.or f.securityContext :=
    attached_foldl ProxyFactory.withSecurityContext ProxyFactory.securityContext (fun _ _ => rfl) f cs
  have attached : (ds.foldl Dispatcher.withSecurityContext d).securityContext = ds.getLast?.or d.securityContext :=
    attached_foldl Dispatcher.withSecurityContext Dispatcher.securityContext (fun _ _ => rfl) d ds
  rw [attached, ProxyFactory.securityContext_of_create hd, made, ← Option.or_assoc, List.getLast?_append]

/-- a session that is not bound to a request -/
def kioskSession : UserSession where
  id := ⟨"6f1b0a52-7c0d-4d0e-9a53-3f1c1f0f6a11"⟩
  attributes := ⟨some "de", some "Europe/Berlin", some "10.0.0.7", some "kiosk"⟩
  requestScoped := false

/-- a client that attaches a context to its factory and calls the service for notes -/
def noteClient : Client Unit (List (Args noteSignature.params)) Unit :=
  .equip () (.create "Notes" "/notes" fun _ => .call 0 noteSignature ("Ada", none, "buffer", some "log", ()) fun _ => .done)

theorem session_private_kiosk :
    (noteClient.run (fun _ => noteService.respond (.postcard none)) (fun _ => .ofSession kioskSession) (.new ⟨0, 0⟩) [] =
      noteClient.run (fun _ => noteService.respond (.postcard none)) (fun _ => .ofId kioskSession.id) (.new ⟨0, 0⟩) []) ∧
    ∃ inv, noteSignature.HandsOver (fun _ => noteService.respond (.postcard none))
        ⟨"/notes", ⟨0, 0⟩, .postcard none, some (.ofSession kioskSession)⟩ ("Ada", none, "buffer", some "log", ())
        (.hosting "/notes" () []) [((), inv)] ∧
      inv.sessionId = some kioskSession.id ∧ inv.attributes = .absent := by
  have alike : ∀ _ : Unit, (SecurityContext.ofSession kioskSession).Alike (.ofId kioskSession.id) :=
    fun _ => .forgotten _ _
  obtain ⟨same, -, calls⟩ := session_private alike fun _ => noteService.respond (.postcard none)
  refine ⟨same noteClient _ _ [] [] ⟨rfl, .none⟩ .nil, ?_⟩
  let d : Dispatcher := ⟨"/notes", ⟨0, 0⟩, .postcard none, some (.ofSession kioskSession)⟩
  obtain ⟨handed, h⟩ := calls d noteSignature ("Ada", none, "buffer", some "log", ()) (.hosting "/notes" () [])
  rcases h.once with rfl | ⟨i, inv, rfl⟩
  · -- there is an invoker, and the one argument that is encoded can be
    exfalso
    obtain ⟨-, ⟨e, he⟩ | ⟨t, x, hx, hlost⟩⟩ := h.refused rfl
    · obtain ⟨w₁, hfound⟩ := d.exists_call_hosting "note" () ([] : List (Args noteSignature.params)) rfl
      obtain ⟨w₂, hcall, -⟩ := d.call_eq "note" (.hosting "/notes" () ([] : List (Args noteSignature.params)))
      cases (hfound.symm.trans hcall).trans (congrArg (fun o => (Except.ok o, w₂)) he)
    · have hx : .encoded t x ∈ [Content.encoded .text "Ada", .absent, .reference ⟨.buffer, "buffer"⟩,
        .reference ⟨.auditLog, "log"⟩] := hx
      simp only [List.mem_cons, reduceCtorEq, or_false, List.not_mem_nil] at hx
      cases hx
      exact hlost ⟨⟨_, rfl⟩, nofun⟩
  · obtain ⟨-, -, htold⟩ := h.tells i inv (List.mem_singleton_self _)
    exact ⟨inv, h, Prod.mk.inj htold⟩

end Loopback
