/-
What a trait that declares a service consists of.

The checks of a declaration are run one after the other, and a service is made at their end. Read backwards, they say
what a trait that passes them looks like, and what of it the service keeps.
- `ParamDef.ofInputs_ok`: the inputs are receivers and parameters with plain names;
- `MethodDef.ofDecl_ok`: what a method of the service has of its declaration;
- `ServiceDef.ofTrait_ok`: all items are methods, and the service has each of them, in order.
-/
import Mathlib.Data.List.Forall2
import Loopback.Declaration.ServiceDef

namespace Loopback.Declaration

/-! ## Parameters -/

/-- a parameter of a method, as it is declared -/
structure Parameter where
  attributes : List Attribute
  name : Ident
  type : TypeExpr

namespace Parameter

/-- what the generators are given of a parameter -/
def toDef (p : Parameter) : ParamDef :=
  ⟨p.name, p.type, hasBypass p.attributes, p.type.optional?⟩

/-- the parameters among inputs, if each of them has a plain name; a receiver is none -/
def ofInputs? : List Input → Option (List Parameter)
  | [] => some []
  | .receiver _ _ :: r => ofInputs? r
  | .typed attributes (.name false _ name none) type :: r => (ofInputs? r).map (⟨attributes, name, type⟩ :: ·)
  | .typed _ _ _ :: _ => none

end Parameter

theorem ParamDef.ofTyped_ok {attributes : List Attribute} {pattern : Pattern} {type : TypeExpr} {d : ParamDef}
    (h : ofTyped attributes pattern type = .ok d) :
    ∃ isMut name, pattern = .name false isMut name none ∧ d = Parameter.toDef ⟨attributes, name, type⟩ := by
  unfold ofTyped at h
  split at h
  · next isMut name =>
    split at h
    · cases h
    · exact ⟨isMut, name, rfl, (Except.ok.inj h).symm⟩
  · cases h

/-- a typed input is read before those behind it -/
theorem ParamDef.ofInputs_typed_eq_ok_iff {attributes : List Attribute} {pattern : Pattern} {type : TypeExpr}
    {r : List Input} {ds : List ParamDef} : ofInputs (.typed attributes pattern type :: r) = .ok ds ↔
      ∃ d rest, ofTyped attributes pattern type = .ok d ∧ ofInputs r = .ok rest ∧ ds = d :: rest := by
  rw [ofInputs]
  cases ofTyped attributes pattern type with
  | error e => simp [bind, Except.bind]
  | ok d => cases ofInputs r <;> simp [bind, Except.bind, pure, Except.pure, eq_comm]

theorem ParamDef.ofInputs_ok {inputs : List Input} {ds : List ParamDef} (h : ofInputs inputs = .ok ds) :
    ∃ ps, Parameter.ofInputs? inputs = some ps ∧ ds = ps.map Parameter.toDef := by
  induction inputs generalizing ds with
  | nil => exact ⟨[], rfl, (Except.ok.inj h).symm⟩
  | cons i r ih =>
    cases i with
    | receiver attributes receiver => exact ih h
    | typed attributes pattern type =>
      obtain ⟨d, rest, hd, hr, rfl⟩ := ofInputs_typed_eq_ok_iff.1 h
      obtain ⟨isMut, name, rfl, rfl⟩ := ofTyped_ok hd
      obtain ⟨ps, declared, rfl⟩ := ih hr
      exact ⟨⟨attributes, name, type⟩ :: ps, by simp [Parameter.ofInputs?, declared], rfl⟩

/-! ## Methods -/

theorem MethodDef.ofDecl_ok {m : MethodDecl} {d : MethodDef} (h : ofDecl m = .ok d) :
    ∃ ps output ok err, Parameter.ofInputs? m.inputs = some ps ∧ m.result? = some (output, ok, err) ∧
      d = ⟨m.name, ps.map Parameter.toDef, output, ok, err, hasBypass m.attributes⟩ := by
  unfold ofDecl at h
  split at h
  · cases h
  split at h
  · cases h
  split at h
  · cases h
  cases hp : ParamDef.ofInputs m.inputs with
  | error e => simp [hp, bind, Except.bind] at h
  | ok params =>
    simp only [hp, bind, Except.bind] at h
    split at h
    · next output ok err result =>
      obtain ⟨ps, declared, rfl⟩ := ParamDef.ofInputs_ok hp
      exact ⟨ps, output, ok, err, declared, result, (Except.ok.inj h).symm⟩
    · cases h

/-- a method is read before the items behind it -/
theorem MethodDef.ofItems_method_eq_ok_iff {m : MethodDecl} {r : List TraitItem} {ds : List MethodDef} :
    ofItems (.method m :: r) = .ok ds ↔ ∃ d rest, ofDecl m = .ok d ∧ ofItems r = .ok rest ∧ ds = d :: rest := by
  rw [ofItems]
  cases ofDecl m with
  | error e => simp [bind, Except.bind]
  | ok d => cases ofItems r <;> simp [bind, Except.bind, pure, Except.pure, eq_comm]

theorem MethodDef.ofItems_ok {items : List TraitItem} {ds : List MethodDef} (h : ofItems items = .ok ds) :
    ∃ ms, items = ms.map TraitItem.method ∧ List.Forall₂ (fun m d => ofDecl m = .ok d) ms ds := by
  induction items generalizing ds with
  | nil => exact ⟨[], rfl, Except.ok.inj h ▸ .nil⟩
  | cons i r ih =>
    cases i with
    | other written => cases h
    | method m =>
      obtain ⟨d, rest, hd, hr, rfl⟩ := ofItems_method_eq_ok_iff.1 h
      obtain ⟨ms, rfl, matched⟩ := ih hr
      exact ⟨m :: ms, rfl, .cons hd matched⟩

theorem MethodDef.names_of_forall₂ {ms : List MethodDecl} {ds : List MethodDef}
    (h : List.Forall₂ (fun m d => ofDecl m = .ok d) ms ds) : ds.map (·.name) = ms.map (·.name) := by
  induction h with
  | nil => rfl
  | cons head _ ih =>
    obtain ⟨ps, output, ok, err, -, -, rfl⟩ := ofDecl_ok head
    rw [List.map_cons, List.map_cons, ih]

/-! ## Traits -/

/-- a trait that declares a service has methods only, and the service has each of them -/
theorem ServiceDef.ofTrait_ok {t : TraitDecl} {arguments : List AttributeArgument} {s : ServiceDef}
    (h : ofTrait t arguments = .ok s) :
    s.name = t.name ∧ ∃ ms, t.items = ms.map TraitItem.method ∧
      List.Forall₂ (fun m d => MethodDef.ofDecl m = .ok d) ms s.methods := by
  cases hi : AttributeArgument.interfaceName t.name.text arguments with
  | error e => simp [ofTrait, hi, bind, Except.bind] at h
  | ok interface =>
    simp only [ofTrait, ofNamed, hi, bind, Except.bind] at h
    split at h
    · cases h
    cases hm : MethodDef.ofItems t.items with
    | error e => simp [hm] at h
    | ok ds =>
      simp only [hm] at h
      split at h
      · cases h
      · rw [← Except.ok.inj h]
        exact ⟨rfl, MethodDef.ofItems_ok hm⟩

end Loopback.Declaration
