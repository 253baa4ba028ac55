/-
Markers are read once and then gone.

A marker says that a parameter or a result is passed by reference. The service notes it, and keeps its trait without it:
the trait is given on to a compiler that knows no markers. Here the trait without markers is told by what it has of the
declared one, one constructor for each part that may hold a marker; every other part is the same by the form of the
statement.
- `MarkersDropped`: attributes without the markers among them;
- `TraitDecl.Cleared`, `TraitDecl.cleared_iff`: a trait without markers;
- `MethodDecl.Flagged`: what a method of the service notes of the markers;
- `ServiceDef.ofTrait_stripped`: the trait without markers declares the same service, with nothing passed by reference;
- `markers_stripped`: these together, for the trait that a service keeps.
-/
import Loopback.Proofs.Agreement
import Loopback.Proofs.ServiceGrammar

namespace Loopback.Declaration

/-! ## Attributes -/

/-- attributes, and those of them that are no markers, in order -/
inductive MarkersDropped : List Attribute → List Attribute → Prop
  | nil : MarkersDropped [] []
  | marker {a : Attribute} {l left : List Attribute} (marker : a.IsMarker) (rest : MarkersDropped l left) :
    MarkersDropped (a :: l) left
  | kept {a : Attribute} {l left : List Attribute} (other : ¬a.IsMarker) (rest : MarkersDropped l left) :
    MarkersDropped (a :: l) (a :: left)

theorem markersDropped_iff {l left : List Attribute} : MarkersDropped l left ↔ left = stripBypass l := by
  constructor
  · intro h
    induction h with
    | nil => rfl
    | marker marker rest ih => simpa [stripBypass, Attribute.isBypass_iff.2 marker] using ih
    | kept other rest ih =>
      have kept := Bool.eq_false_iff.2 (mt Attribute.isBypass_iff.1 other)
      simpa [stripBypass, kept] using ih
  · rintro rfl
    induction l with
    | nil => exact .nil
    | cons a l ih =>
      cases ha : a.isBypass with
      | true =>
        have dropped : stripBypass (a :: l) = stripBypass l := by simp [stripBypass, ha]
        exact dropped ▸ .marker (Attribute.isBypass_iff.1 ha) ih
      | false =>
        have kept : stripBypass (a :: l) = a :: stripBypass l := by simp [stripBypass, ha]
        exact kept ▸ .kept (mt Attribute.isBypass_iff.2 (Bool.eq_false_iff.1 ha)) ih

@[simp] theorem hasBypass_stripBypass (l : List Attribute) : hasBypass (stripBypass l) = false := by
  simp [hasBypass, stripBypass]

/-! ## Traits without markers -/

/-- an input without the markers of a parameter; a receiver stays as it is -/
inductive Input.Cleared : Input → Input → Prop
  | receiver (attributes : List Attribute) (receiver : Receiver) :
    Cleared (.receiver attributes receiver) (.receiver attributes receiver)
  | typed {attributes left : List Attribute} (pattern : Pattern) (type : TypeExpr)
    (dropped : MarkersDropped attributes left) : Cleared (.typed attributes pattern type) (.typed left pattern type)

/-- a method without its markers and those of its parameters; its signature, its body and all else stay -/
inductive MethodDecl.Cleared (m : MethodDecl) : MethodDecl → Prop
  | intro {attributes : List Attribute} {inputs : List Input} (dropped : MarkersDropped m.attributes attributes)
    (cleared : List.Forall₂ Input.Cleared m.inputs inputs) :
    Cleared m { m with attributes := attributes, inputs := inputs }

/-- an item without its markers; what is no method stays as it is -/
inductive TraitItem.Cleared : TraitItem → TraitItem → Prop
  | method {m m' : MethodDecl} (cleared : m.Cleared m') : Cleared (.method m) (.method m')
  | other (written : Tokens) : Cleared (.other written) (.other written)

/-- a trait without the markers of its items; its own attributes and all else stay -/
inductive TraitDecl.Cleared (t : TraitDecl) : TraitDecl → Prop
  | intro {items : List TraitItem} (cleared : List.Forall₂ TraitItem.Cleared t.items items) :
    Cleared t { t with items := items }

theorem forall₂_iff_map {α : Type} {R : α → α → Prop} {f : α → α} (h : ∀ a b, R a b ↔ b = f a) {l l' : List α} :
    List.Forall₂ R l l' ↔ l' = l.map f := by
  have function : R = fun a b => f a = b := funext fun a => funext fun b => propext ((h a b).trans eq_comm)
  rw [function, ← List.forall₂_map_left_iff (R := Eq), List.forall₂_eq_eq_eq, eq_comm]

theorem Input.cleared_iff (i i' : Input) : i.Cleared i' ↔ i' = i.stripped := by
  constructor
  · rintro (_ | ⟨pattern, type, dropped⟩)
    · rfl
    · rw [stripped, markersDropped_iff.1 dropped]
  · rintro rfl
    cases i with
    | receiver attributes receiver => exact .receiver attributes receiver
    | typed attributes pattern type => exact .typed pattern type (markersDropped_iff.2 rfl)

theorem MethodDecl.cleared_iff (m m' : MethodDecl) : m.Cleared m' ↔ m' = m.stripped := by
  constructor
  · rintro ⟨dropped, cleared⟩
    rw [stripped, markersDropped_iff.1 dropped, (forall₂_iff_map Input.cleared_iff).1 cleared]
  · rintro rfl
    exact .intro (markersDropped_iff.2 rfl) ((forall₂_iff_map Input.cleared_iff).2 rfl)

theorem TraitItem.cleared_iff (i i' : TraitItem) : i.Cleared i' ↔ i' = i.stripped := by
  constructor
  · rintro (cleared | _)
    · rw [stripped, (MethodDecl.cleared_iff _ _).1 cleared]
    · rfl
  · rintro rfl
    cases i with
    | method m => exact .method ((MethodDecl.cleared_iff _ _).2 rfl)
    | other written => exact .other written

/-- there is one trait without the markers of another -/
theorem TraitDecl.cleared_iff (t t' : TraitDecl) : t.Cleared t' ↔ t' = t.stripped := by
  constructor
  · rintro ⟨cleared⟩
    rw [stripped, (forall₂_iff_map TraitItem.cleared_iff).1 cleared]
  · rintro rfl
    exact .intro ((forall₂_iff_map TraitItem.cleared_iff).2 rfl)

/-! ## What a service notes -/

/-- the attributes of an input, unless it is a receiver -/
def Input.parameterAttributes? : Input → Option (List Attribute)
  | .receiver _ _ => none
  | .typed attributes _ _ => some attributes

/-- a method of a service notes the markers of its declaration -/
structure MethodDecl.Flagged (m : MethodDecl) (d : MethodDef) : Prop where
  result : d.resultBypass = true ↔ ∃ a ∈ m.attributes, a.IsMarker
  params : List.Forall₂ (fun attributes p => p.bypass = true ↔ ∃ a ∈ attributes, a.IsMarker)
    (m.inputs.filterMap Input.parameterAttributes?) d.params

theorem ParamDef.Declared.flagged {inputs : List Input} {ds : List ParamDef} (h : Declared inputs ds) :
    List.Forall₂ (fun attributes p => p.bypass = true ↔ ∃ a ∈ attributes, a.IsMarker)
      (inputs.filterMap Input.parameterAttributes?) ds := by
  induction h with
  | nil => exact .nil
  | receiver rest ih => exact ih
  | typed owned marked option rest ih => exact .cons marked ih

theorem MethodDecl.Declares.flagged {m : MethodDecl} {d : MethodDef} (h : m.Declares d) : m.Flagged d :=
  ⟨h.marked, h.params.flagged⟩

/-! ## Reading a trait without markers -/

/-- a parameter that is not passed by reference -/
def ParamDef.unmarked (p : ParamDef) : ParamDef :=
  { p with bypass := false }

/-- a method of which nothing is passed by reference -/
def MethodDef.unmarked (d : MethodDef) : MethodDef :=
  { d with params := d.params.map ParamDef.unmarked, resultBypass := false }

theorem ParamDef.ofTyped_stripBypass (attributes : List Attribute) (pattern : Pattern) (type : TypeExpr) :
    ofTyped (stripBypass attributes) pattern type = (ofTyped attributes pattern type).map unmarked := by
  unfold ofTyped
  split
  · split <;> simp [Except.map, unmarked]
  · rfl

theorem ParamDef.ofInputs_stripped (inputs : List Input) :
    ofInputs (inputs.map Input.stripped) = (ofInputs inputs).map (List.map unmarked) := by
  induction inputs with
  | nil => rfl
  | cons i r ih =>
    cases i with
    | receiver attributes receiver => exact ih
    | typed attributes pattern type =>
      rw [List.map_cons, Input.stripped, ofInputs, ofInputs, ofTyped_stripBypass, ih]
      cases ofTyped attributes pattern type with
      | error e => rfl
      | ok d => cases ofInputs r <;> rfl

theorem MethodDecl.receiver?_stripped (m : MethodDecl) : m.stripped.receiver? = m.receiver? := by
  unfold receiver? stripped
  cases m.inputs with
  | nil => rfl
  | cons i r => cases i <;> rfl

theorem MethodDef.ofDecl_stripped (m : MethodDecl) : ofDecl m.stripped = (ofDecl m).map unmarked := by
  have inputs : ParamDef.ofInputs m.stripped.inputs = (ParamDef.ofInputs m.inputs).map (List.map ParamDef.unmarked) :=
    ParamDef.ofInputs_stripped m.inputs
  have attributes : hasBypass m.stripped.attributes = false := hasBypass_stripBypass m.attributes
  have result : m.stripped.result? = m.result? := rfl
  have async : m.stripped.isAsync = m.isAsync := rfl
  have generics : m.stripped.generics = m.generics := rfl
  have name : m.stripped.name = m.name := rfl
  simp only [ofDecl, m.receiver?_stripped, inputs, attributes, result, async, generics, name]
  split
  · rfl
  split
  · rfl
  split
  · rfl
  cases ParamDef.ofInputs m.inputs with
  | error e => rfl
  | ok params => cases m.result? <;> rfl

theorem MethodDef.ofItems_stripped (items : List TraitItem) :
    ofItems (items.map TraitItem.stripped) = (ofItems items).map (List.map unmarked) := by
  induction items with
  | nil => rfl
  | cons i r ih =>
    cases i with
    | other written => rfl
    | method m =>
      rw [List.map_cons, TraitItem.stripped, ofItems, ofItems, ofDecl_stripped, ih]
      cases ofDecl m with
      | error e => rfl
      | ok d => cases ofItems r <;> rfl

/-- a trait without its markers declares the same service, with nothing passed by reference -/
theorem ServiceDef.ofTrait_stripped {t : TraitDecl} {arguments : List AttributeArgument} {s : ServiceDef}
    (h : ofTrait t arguments = .ok s) :
    ofTrait t.stripped arguments = .ok { s with methods := s.methods.map MethodDef.unmarked } := by
  obtain ⟨interface, hi, hn⟩ := ofTrait_eq_ok_iff_named.1 h
  obtain ⟨generics, inhabited, methods, hm, rfl⟩ := ofNamed_eq_ok_iff.1 hn
  have read : MethodDef.ofItems t.stripped.items = .ok (methods.map MethodDef.unmarked) := by
    rw [TraitDecl.stripped, MethodDef.ofItems_stripped, hm]
    rfl
  refine ofTrait_eq_ok_iff_named.2 ⟨interface, hi, ofNamed_eq_ok_iff.2 ⟨generics, ?_, _, read, ?_⟩⟩
  · simpa [TraitDecl.stripped] using inhabited
  · rw [TraitDecl.stripped_stripped]
    rfl

/-- **Markers are stripped.** For every trait that declares a service:
- the service keeps the trait without the markers of its methods and their parameters, and no other trait is that: all
  other attributes stay in order, and so does everything else;
- each method of the service notes whether there was a marker on it, and on each of its parameters;
- the trait that is kept declares the same service once more, with nothing passed by reference, and is kept as it is. -/
theorem markers_stripped {t : TraitDecl} {arguments : List AttributeArgument} {s : ServiceDef}
    (accepted : ServiceDef.ofTrait t arguments = .ok s) :
    t.Cleared s.trait ∧ (∀ t', t.Cleared t' → t' = s.trait) ∧
      (∃ ms, t.items = ms.map TraitItem.method ∧ List.Forall₂ MethodDecl.Flagged ms s.methods) ∧
      ServiceDef.ofTrait s.trait arguments = .ok { s with methods := s.methods.map MethodDef.unmarked } := by
  have declares := (ServiceDef.ofTrait_eq_ok_iff.1 accepted).2
  obtain ⟨ms, items, matched⟩ := declares.methods
  refine ⟨?_, ?_, ⟨ms, items, matched.imp fun _ _ h => h.flagged⟩, ?_⟩
  · exact (TraitDecl.cleared_iff t s.trait).2 declares.trait
  · intro t' cleared
    rw [(TraitDecl.cleared_iff t t').1 cleared, declares.trait]
  · have again := ServiceDef.ofTrait_stripped accepted
    rwa [← declares.trait] at again

/-! ## A vault -/

namespace Vault

open Warehouse

/-- an attribute of one word -/
def plainAttribute (name : String) : Attribute :=
  ⟨false, ⟨false, [.plain name]⟩, []⟩

/-- a method with markers among other attributes; what stands on its receiver is no marker of a parameter -/
def method : MethodDecl where
  attributes := [plainAttribute "inline", marker, plainAttribute "must_use", marker]
  isConst := false
  isAsync := false
  isUnsafe := false
  abi := []
  name := .plain "open"
  generics := .none
  inputs := [.receiver [marker] (.borrowed none false),
    .typed [marker, plainAttribute "allow"] (.name false true (.plain "key") none) (simple "Key"),
    .typed [plainAttribute "allow"] (.name false false (.plain "shelf") none) (simple "u8")]
  trailing := true
  variadic := []
  output := some (applied "Result" [simple "Box", simple "Alarm"])
  body := none

def trait : TraitDecl where
  attributes := [marker]
  visibility := [word "pub"]
  isUnsafe := false
  isAuto := false
  name := .plain "Vault"
  generics := .none
  bounds := [word "Send"]
  items := [.method method]

end Vault

theorem markers_stripped_vault : ∃ s, ServiceDef.ofTrait Vault.trait [] = .ok s ∧ Vault.trait.Cleared s.trait ∧
    ServiceDef.ofTrait s.trait [] = .ok { s with methods := s.methods.map MethodDef.unmarked } := by
  obtain ⟨s, accepted⟩ : ∃ s, ServiceDef.ofTrait Vault.trait [] = .ok s := ⟨_, rfl⟩
  obtain ⟨cleared, -, -, again⟩ := markers_stripped accepted
  exact ⟨s, accepted, cleared, again⟩

end Loopback.Declaration
