/-
Records as their builder makes them.

A record is started for a method and then built by any sequence of steps: an argument is added, the way of the result is
chosen, or the context of a caller is attached. A context always writes its session id, but its attributes only if they
belong to the request, so a context that has none of its own leaves those of an earlier one in the record.
- `built_arguments`, `built_sessionId`, `built_attributes`: what each part of the record is made of;
- `built_told_iff`: the record tells of the context that was attached last, exactly when this one has attributes that
  travel, or none were left by the ones before it;
- `built_mixed`: a record with the id of one session and the attributes of another one.
-/
import Loopback.Proofs.HandedOver
import Mathlib.Data.List.Induction

namespace Loopback

/-! ## Steps -/

/-- one step of a builder -/
inductive BuildStep where
  | argument (typeName : String) (bytes : Bytes)
  | reference (typeName : String) (value : BypassValue)
  | null (typeName : String)
  | expectResult (byReference : Bool)
  | attach (context : SecurityContext)

namespace BuildStep

/-- what a step does to the record -/
def apply (inv : Invocation) : BuildStep → Invocation
  | argument typeName bytes => inv.push typeName (.payload bytes)
  | reference typeName value => inv.push typeName (.reference value)
  | null typeName => inv.push typeName .null
  | expectResult byReference => inv.expectResult byReference
  | attach context => inv.attach context

/-- the argument that a step adds -/
def argument? : BuildStep → Option Argument
  | argument typeName bytes => some ⟨typeName, .payload bytes⟩
  | reference typeName value => some ⟨typeName, .reference value⟩
  | null typeName => some ⟨typeName, .null⟩
  | expectResult _ | attach _ => none

/-- the context that a step attaches -/
def context? : BuildStep → Option SecurityContext
  | attach context => some context
  | argument .. | reference .. | null _ | expectResult _ => none

/-- one step adds its argument behind the others -/
theorem apply_arguments (step : BuildStep) (inv : Invocation) :
    (step.apply inv).arguments = inv.arguments ++ step.argument?.toList := by
  cases step <;> simp [apply, argument?, Invocation.push, Invocation.expectResult, Invocation.attach]

/-- one step writes the id of its context -/
theorem apply_sessionId (step : BuildStep) (inv : Invocation) :
    (step.apply inv).sessionId = (step.context?.map SecurityContext.sessionId).or inv.sessionId := by
  cases step <;> rfl

/-- one step writes the attributes of its context if they travel, and leaves the others -/
theorem apply_attributes (step : BuildStep) (inv : Invocation) :
    (step.apply inv).attributes = (step.context?.bind SecurityContext.travelling).getD inv.attributes := by
  cases step <;> rfl

end BuildStep

/-- the record that steps build -/
def Invocation.built (method : String) (steps : List BuildStep) : Invocation :=
  steps.foldl BuildStep.apply (.start method)

theorem Invocation.built_concat (method : String) (steps : List BuildStep) (step : BuildStep) :
    Invocation.built method (steps ++ [step]) = step.apply (Invocation.built method steps) := by
  simp [built]

/-- what a list of steps gives grows with each step by what this one gives -/
theorem filterMap_concat {α β : Type} (f : α → Option β) (l : List α) (a : α) :
    (l ++ [a]).filterMap f = l.filterMap f ++ (f a).toList := by
  simp [List.filterMap_eq_flatMap_toList]

/-- the arguments are the added ones, in order -/
theorem Invocation.built_arguments (method : String) (steps : List BuildStep) :
    (Invocation.built method steps).arguments = steps.filterMap BuildStep.argument? := by
  induction steps using List.reverseRecOn with
  | nil => rfl
  | append_singleton steps step ih =>
    rw [built_concat, BuildStep.apply_arguments, ih, filterMap_concat]

/-! ## Sessions -/

/-- the attributes that travelled last -/
def SecurityContext.lastTravelling (contexts : List SecurityContext) : Option Attributes :=
  contexts.reverse.findSome? SecurityContext.travelling

theorem SecurityContext.lastTravelling_concat (contexts : List SecurityContext) (last : SecurityContext) :
    lastTravelling (contexts ++ [last]) = last.travelling.or (lastTravelling contexts) := by
  unfold lastTravelling
  rw [List.reverse_concat, List.findSome?_cons]
  cases last.travelling <;> rfl

/-- what a record tells of a context: its id, and the attributes that travel -/
theorem SecurityContext.told_some (context : SecurityContext) :
    told (some context) = (some context.sessionId, context.travelling.getD .absent) := by
  rcases context with id | ⟨id, attributes, own⟩
  · rfl
  · cases own <;> rfl

/-- the session id is that of the last context -/
theorem Invocation.built_sessionId (method : String) (steps : List BuildStep) :
    (Invocation.built method steps).sessionId =
      (steps.filterMap BuildStep.context?).getLast?.map SecurityContext.sessionId := by
  induction steps using List.reverseRecOn with
  | nil => rfl
  | append_singleton steps step ih =>
    rw [built_concat, BuildStep.apply_sessionId, ih, filterMap_concat]
    cases step.context? <;> simp

/-- the attributes are the ones that travelled last, from whatever context -/
theorem Invocation.built_attributes (method : String) (steps : List BuildStep) :
    (Invocation.built method steps).attributes =
      (SecurityContext.lastTravelling (steps.filterMap BuildStep.context?)).getD .absent := by
  induction steps using List.reverseRecOn with
  | nil => rfl
  | append_singleton steps step ih =>
    rw [built_concat, BuildStep.apply_attributes, ih, filterMap_concat]
    cases step.context? with
    | none => simp
    | some context =>
      rw [Option.toList_some, SecurityContext.lastTravelling_concat, Option.bind_some]
      cases context.travelling <;> rfl

/-- **One session or two.** A record that was built with a context carries the session id of the last one. It tells of
this context, and of nothing else, exactly when the context has attributes that travel, or when the contexts before it
left none. -/
theorem built_told_iff (method : String) {steps : List BuildStep} {before : List SecurityContext}
    {last : SecurityContext} (h : steps.filterMap BuildStep.context? = before ++ [last]) :
    (Invocation.built method steps).sessionId = some last.sessionId ∧
    (Invocation.built method steps).attributes =
      (last.travelling.or (SecurityContext.lastTravelling before)).getD .absent ∧
    (((Invocation.built method steps).sessionId, (Invocation.built method steps).attributes) =
        SecurityContext.told (some last) ↔
      last.travelling.isSome = true ∨ (SecurityContext.lastTravelling before).getD .absent = .absent) := by
  have id : (Invocation.built method steps).sessionId = some last.sessionId := by
    rw [Invocation.built_sessionId, h, List.getLast?_concat]
    rfl
  have attributes : (Invocation.built method steps).attributes =
      (last.travelling.or (SecurityContext.lastTravelling before)).getD .absent := by
    rw [Invocation.built_attributes, h, SecurityContext.lastTravelling_concat]
  refine ⟨id, attributes, ?_⟩
  rw [id, attributes, SecurityContext.told_some]
  cases last.travelling with
  | some own => simp
  | none => simp

/-- a session whose attributes belong to the request -/
def berlinSession : SecurityContext :=
  .ofSession ⟨⟨"00000000-0000-4000-8000-00000000000a"⟩,
    ⟨some "de", some "Europe/Berlin", some "10.0.0.8", some "desktop"⟩, true⟩

/-- a session of which the id alone is known -/
def bareSession : SecurityContext := .ofId ⟨"00000000-0000-4000-8000-00000000000b"⟩

theorem built_told_iff_replaced :
    ∃ steps : List BuildStep, steps.filterMap BuildStep.context? = [bareSession] ++ [berlinSession] ∧
      ((Invocation.built "ping" steps).sessionId, (Invocation.built "ping" steps).attributes) =
        SecurityContext.told (some berlinSession) :=
  have contexts : [.attach bareSession, .null "()", .attach berlinSession].filterMap BuildStep.context? =
      [bareSession] ++ [berlinSession] := rfl
  ⟨_, contexts, (built_told_iff "ping" contexts).2.2.2 (.inl rfl)⟩

/-- **A mixed record.** The session that is attached last has no attributes, but the record carries its id together with
the locale, the time zone, the address and the client of the session before it. -/
theorem built_mixed :
    ∃ steps : List BuildStep, steps.filterMap BuildStep.context? = [berlinSession] ++ [bareSession] ∧
      (Invocation.built "ping" steps).sessionId = some bareSession.sessionId ∧
      some (Invocation.built "ping" steps).attributes = berlinSession.travelling ∧
      ((Invocation.built "ping" steps).sessionId, (Invocation.built "ping" steps).attributes) ≠
        SecurityContext.told (some bareSession) :=
  ⟨[.attach berlinSession, .attach bareSession], rfl, rfl, rfl, by decide⟩

end Loopback
