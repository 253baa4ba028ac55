/-
The traits that declare a service.

A trait with the arguments of its attribute is checked item by item, and the first fault ends the check. Here the traits
that pass are told without the check: as conditions on the trait, each on one of its parts, and beside them what the
service has of each part.
- `TypeExpr.Applies`: a type is written as a name applied to types;
- `MethodDecl.IsServiceMethod`, `TraitDecl.IsService`: the conditions;
- `MethodDecl.Declares`, `TraitDecl.Declares`: what a method and a service have of their declaration;
- `service_grammar`: a trait declares a service exactly under the conditions, and the service is the one that it
  declares.
-/
import Mathlib.Data.Set.List
import Loopback.Proofs.Declared

namespace Loopback.Declaration

/-! ## Types -/

namespace TypeExpr

/-- a type is written as a path without a qualified self, whose last segment is a name with types as its arguments -/
inductive Applies (name : String) (types : List TypeExpr) : TypeExpr → Prop
  | intro (lead : Tokens) (afterColons trailing : Bool) :
    Applies name types (.path false lead (.plain name) (.angled afterColons (types.map .type) trailing))

/-- a type is neither a reference nor an `impl` -/
def IsOwned (t : TypeExpr) : Prop :=
  (∀ written, t ≠ .reference written) ∧ ∀ written, t ≠ .implTrait written

end TypeExpr

theorem GenericArgument.mapM_type?_eq_some_iff {l : List (GenericArgument TypeExpr)} {types : List TypeExpr} :
    l.mapM type? = some types ↔ l = types.map .type := by
  induction l generalizing types with
  | nil => cases types <;> simp
  | cons a r ih =>
    -- an argument that is no type ends the list, and no list of types has one
    cases a with
    | type t => cases types <;> simp [type?, Option.bind_eq_some_iff, ih, and_comm]
    | lifetime name => cases types <;> simp [type?]
    | other written => cases types <;> simp [type?]

namespace TypeExpr

theorem typeArguments?_eq_some_iff {t : TypeExpr} {name : String} {types : List TypeExpr} :
    t.typeArguments? name = some types ↔ t.Applies name types := by
  constructor
  · intro h
    unfold typeArguments? at h
    split at h
    · split at h
      · next named =>
        rw [eq_of_beq named, GenericArgument.mapM_type?_eq_some_iff.1 h]
        exact .intro _ _ _
      · cases h
    · cases h
  · rintro ⟨lead, afterColons, trailing⟩
    simp only [typeArguments?, beq_self_eq_true, if_true]
    exact GenericArgument.mapM_type?_eq_some_iff.2 rfl

theorem optional?_eq_some_iff {t inner : TypeExpr} : t.optional? = some inner ↔ t.Applies "Option" [inner] := by
  rw [← typeArguments?_eq_some_iff, optional?]
  split
  · next types h => simp [h]
  · next other => simpa using other inner

theorem result?_eq_some_iff {t ok err : TypeExpr} : t.result? = some (ok, err) ↔ t.Applies "Result" [ok, err] := by
  rw [← typeArguments?_eq_some_iff, result?]
  split
  · next types h => simp [h]
  · next other => simpa using other ok err

theorem isBorrowed_eq_false_iff {t : TypeExpr} : t.isBorrowed = false ↔ t.IsOwned := by
  cases t <;> simp [isBorrowed, IsOwned]

end TypeExpr

/-! ## Markers -/

/-- an attribute is a marker: its path is the one word `bypass` -/
def Attribute.IsMarker (a : Attribute) : Prop :=
  a.path = ⟨false, [.plain "bypass"]⟩

theorem Attribute.isBypass_iff {a : Attribute} : a.isBypass = true ↔ a.IsMarker := by
  simp [isBypass, ModulePath.isWord, IsMarker]

theorem hasBypass_iff {l : List Attribute} : hasBypass l = true ↔ ∃ a ∈ l, a.IsMarker := by
  simp [hasBypass, Attribute.isBypass_iff]

/-! ## Parameters -/

/-- an input that a service method may have: a receiver, or a plain name, maybe `mut`, with an owned type -/
inductive Input.IsAdmissible : Input → Prop
  | receiver (attributes : List Attribute) (receiver : Receiver) : IsAdmissible (.receiver attributes receiver)
  | typed (attributes : List Attribute) (isMut : Bool) (name : Ident) {type : TypeExpr} (owned : type.IsOwned) :
    IsAdmissible (.typed attributes (.name false isMut name none) type)

/-- the parameters that inputs declare: one for each that is no receiver, in order -/
inductive ParamDef.Declared : List Input → List ParamDef → Prop
  | nil : Declared [] []
  | receiver {attributes : List Attribute} {receiver : Receiver} {inputs : List Input} {ds : List ParamDef}
    (rest : Declared inputs ds) : Declared (.receiver attributes receiver :: inputs) ds
  | typed {attributes : List Attribute} {isMut : Bool} {name : Ident} {type : TypeExpr} {bypass : Bool}
    {optional : Option TypeExpr} {inputs : List Input} {ds : List ParamDef} (owned : type.IsOwned)
    (marked : bypass = true ↔ ∃ a ∈ attributes, a.IsMarker)
    (option : ∀ inner, optional = some inner ↔ type.Applies "Option" [inner]) (rest : Declared inputs ds) :
    Declared (.typed attributes (.name false isMut name none) type :: inputs) (⟨name, type, bypass, optional⟩ :: ds)

namespace ParamDef

theorem ofTyped_eq_ok_iff {attributes : List Attribute} {pattern : Pattern} {type : TypeExpr} {d : ParamDef} :
    ofTyped attributes pattern type = .ok d ↔
      (∃ isMut, pattern = .name false isMut d.name none) ∧ type.IsOwned ∧ d.type = type ∧
        (d.bypass = true ↔ ∃ a ∈ attributes, a.IsMarker) ∧
          ∀ inner, d.optional = some inner ↔ type.Applies "Option" [inner] := by
  constructor
  · intro h
    unfold ofTyped at h
    split at h
    · next isMut name =>
      split at h
      · cases h
      · next owned =>
        cases h
        exact ⟨⟨isMut, rfl⟩, TypeExpr.isBorrowed_eq_false_iff.1 (Bool.eq_false_iff.2 owned), rfl, hasBypass_iff,
          fun _ => TypeExpr.optional?_eq_some_iff⟩
    · cases h
  · obtain ⟨name, written, bypass, optional⟩ := d
    rintro ⟨⟨isMut, rfl⟩, owned, rfl, marked, option⟩
    have bypassed : bypass = hasBypass attributes := Bool.eq_iff_iff.2 (marked.trans hasBypass_iff.symm)
    have optioned : optional = written.optional? :=
      Option.ext fun inner => (option inner).trans TypeExpr.optional?_eq_some_iff.symm
    simp [ofTyped, TypeExpr.isBorrowed_eq_false_iff.2 owned, bypassed, optioned]

theorem ofInputs_eq_ok_iff {inputs : List Input} {ds : List ParamDef} :
    ofInputs inputs = .ok ds ↔ Declared inputs ds := by
  constructor
  · intro h
    induction inputs generalizing ds with
    | nil =>
      cases h
      exact .nil
    | cons i r ih =>
      cases i with
      | receiver attributes receiver => exact .receiver (ih h)
      | typed attributes pattern type =>
        obtain ⟨d, rest, hd, hr, rfl⟩ := ofInputs_typed_eq_ok_iff.1 h
        obtain ⟨⟨isMut, rfl⟩, owned, rfl, marked, option⟩ := ofTyped_eq_ok_iff.1 hd
        exact .typed owned marked option (ih hr)
  · intro h
    induction h with
    | nil => rfl
    | receiver rest ih => exact ih
    | @typed attributes isMut name type bypass optional _ _ owned marked option rest ih =>
      have hd : ofTyped attributes (.name false isMut name none) type = .ok ⟨name, type, bypass, optional⟩ :=
        ofTyped_eq_ok_iff.2 ⟨⟨isMut, rfl⟩, owned, rfl, marked, option⟩
      exact ofInputs_typed_eq_ok_iff.2 ⟨_, _, hd, ih, rfl⟩

/-- inputs declare parameters exactly when each of them is admissible -/
theorem exists_declared_iff {inputs : List Input} : (∃ ds, Declared inputs ds) ↔ ∀ i ∈ inputs, i.IsAdmissible := by
  induction inputs with
  | nil => simpa using ⟨[], Declared.nil⟩
  | cons i r ih =>
    rw [List.forall_mem_cons, ← ih]
    constructor
    · rintro ⟨ds, h⟩
      cases h with
      | receiver rest => exact ⟨.receiver _ _, _, rest⟩
      | typed owned marked option rest => exact ⟨.typed _ _ _ owned, _, rest⟩
    · rintro ⟨admissible, ds, rest⟩
      cases admissible with
      | receiver attributes receiver => exact ⟨ds, .receiver rest⟩
      | @typed attributes isMut name type owned =>
        exact ⟨⟨name, type, hasBypass attributes, type.optional?⟩ :: ds,
          .typed owned hasBypass_iff (fun _ => TypeExpr.optional?_eq_some_iff) rest⟩

end ParamDef

/-! ## Methods -/

/-- a list has no generics: neither parameters nor a `where` -/
def Generics.IsAbsent (g : Generics) : Prop :=
  g.parameters = [] ∧ g.constraints = Option.none

theorem Generics.isGeneric_eq_false_iff {g : Generics} : g.isGeneric = false ↔ g.IsAbsent := by
  simp [isGeneric, IsAbsent]

/-- the conditions on a method of a service -/
structure MethodDecl.IsServiceMethod (m : MethodDecl) : Prop where
  synchronous : m.isAsync = false
  generics : m.generics.IsAbsent
  /-- the first input is `&self`, maybe with a lifetime -/
  receiver : ∃ attributes lifetime rest, m.inputs = .receiver attributes (.borrowed lifetime false) :: rest
  inputs : ∀ i ∈ m.inputs, i.IsAdmissible
  output : ∃ output ok err, m.output = some output ∧ output.Applies "Result" [ok, err]

/-- what a method of a service has of its declaration -/
structure MethodDecl.Declares (m : MethodDecl) (d : MethodDef) : Prop where
  name : d.name = m.name
  params : ParamDef.Declared m.inputs d.params
  output : m.output = some d.output
  result : d.output.Applies "Result" [d.okType, d.errType]
  marked : d.resultBypass = true ↔ ∃ a ∈ m.attributes, a.IsMarker

namespace MethodDecl

theorem result?_eq_some_iff {m : MethodDecl} {output ok err : TypeExpr} :
    m.result? = some (output, ok, err) ↔ m.output = some output ∧ output.Applies "Result" [ok, err] := by
  simp only [result?, Option.bind_eq_some_iff, Option.map_eq_some_iff, ← TypeExpr.result?_eq_some_iff]
  constructor
  · rintro ⟨_, houtput, ⟨_, _⟩, hresult, ⟨⟩⟩
    exact ⟨houtput, hresult⟩
  · rintro ⟨houtput, hresult⟩
    exact ⟨output, houtput, (ok, err), hresult, rfl⟩

/-- whether the first input is `&self` -/
theorem receiver?_shared_iff {m : MethodDecl} : m.receiver?.any Receiver.isShared = true ↔
    ∃ attributes lifetime rest, m.inputs = .receiver attributes (.borrowed lifetime false) :: rest := by
  constructor
  · intro h
    unfold receiver? at h
    split at h
    · next attributes r rest first =>
      rw [Option.any_some] at h
      unfold Receiver.isShared at h
      split at h
      · exact ⟨attributes, _, rest, first⟩
      · cases h
    · cases h
  · rintro ⟨attributes, lifetime, rest, first⟩
    simp [receiver?, first, Receiver.isShared]

end MethodDecl

namespace MethodDef

theorem ofDecl_eq_ok_iff {m : MethodDecl} {d : MethodDef} :
    ofDecl m = .ok d ↔ m.IsServiceMethod ∧ m.Declares d := by
  constructor
  · intro h
    unfold ofDecl at h
    split at h
    · cases h
    split at h
    · cases h
    split at h
    · cases h
    next synchronous generic receiver =>
    cases hp : ParamDef.ofInputs m.inputs with
    | error e => simp [hp, bind, Except.bind] at h
    | ok params =>
      simp only [hp, bind, Except.bind] at h
      split at h
      · next output ok err result =>
        cases h
        have declared := ParamDef.ofInputs_eq_ok_iff.1 hp
        obtain ⟨written, applies⟩ := MethodDecl.result?_eq_some_iff.1 result
        refine ⟨⟨Bool.eq_false_iff.2 synchronous, Generics.isGeneric_eq_false_iff.1 (Bool.eq_false_iff.2 generic),
          MethodDecl.receiver?_shared_iff.1 (by simpa using receiver), ParamDef.exists_declared_iff.1 ⟨_, declared⟩,
          ⟨output, ok, err, written, applies⟩⟩, ⟨rfl, declared, written, applies, hasBypass_iff⟩⟩
      · cases h
  · rintro ⟨conditions, declares⟩
    obtain ⟨name, params, output, ok, err, bypass⟩ := d
    have hp := ParamDef.ofInputs_eq_ok_iff.2 declares.params
    have hr := MethodDecl.result?_eq_some_iff.2 ⟨declares.output, declares.result⟩
    have bypassed : bypass = hasBypass m.attributes := Bool.eq_iff_iff.2 (declares.marked.trans hasBypass_iff.symm)
    have named : name = m.name := declares.name
    dsimp only at hp hr
    simp [ofDecl, conditions.synchronous, Generics.isGeneric_eq_false_iff.2 conditions.generics,
      MethodDecl.receiver?_shared_iff.2 conditions.receiver, hp, hr, bind, Except.bind, bypassed, named]

/-- a method that meets the conditions declares one of a service -/
theorem exists_ofDecl_iff {m : MethodDecl} : (∃ d, ofDecl m = .ok d) ↔ m.IsServiceMethod := by
  constructor
  · rintro ⟨d, h⟩
    exact (ofDecl_eq_ok_iff.1 h).1
  · intro conditions
    obtain ⟨params, declared⟩ := ParamDef.exists_declared_iff.2 conditions.inputs
    obtain ⟨output, ok, err, written, applies⟩ := conditions.output
    exact ⟨⟨m.name, params, output, ok, err, hasBypass m.attributes⟩,
      ofDecl_eq_ok_iff.2 ⟨conditions, rfl, declared, written, applies, hasBypass_iff⟩⟩

theorem ofItems_eq_ok_iff {items : List TraitItem} {ds : List MethodDef} :
    ofItems items = .ok ds ↔ ∃ ms, items = ms.map TraitItem.method ∧
      List.Forall₂ (fun m d => m.IsServiceMethod ∧ m.Declares d) ms ds := by
  constructor
  · intro h
    obtain ⟨ms, items, matched⟩ := ofItems_ok h
    exact ⟨ms, items, matched.imp fun _ _ h => ofDecl_eq_ok_iff.1 h⟩
  · rintro ⟨ms, rfl, matched⟩
    induction matched with
    | nil => rfl
    | cons head _ ih => exact ofItems_method_eq_ok_iff.2 ⟨_, _, ofDecl_eq_ok_iff.2 head, ih, rfl⟩

end MethodDef

/-! ## Arguments -/

/-- the argument that names the interface -/
def AttributeArgument.naming (text : String) : AttributeArgument :=
  .assignment ⟨false, [.plain "name"]⟩ (.text text)

/-- arguments give an interface its name exactly when each of them names it; the last one decides -/
theorem AttributeArgument.interfaceName_eq_ok_iff {name interface : String} {arguments : List AttributeArgument} :
    interfaceName name arguments = .ok interface ↔
      ∃ texts : List String, arguments = texts.map naming ∧ interface = texts.getLast?.getD name := by
  induction arguments generalizing name with
  | nil =>
    constructor
    · rintro ⟨⟩
      exact ⟨[], rfl, rfl⟩
    · rintro ⟨texts, none, rfl⟩
      cases List.map_eq_nil_iff.1 none.symm
      rfl
  | cons a r ih =>
    constructor
    · intro h
      cases a with
      | path p => cases h
      | list p written => cases h
      | assignment p value =>
        cases value with
        | literal written =>
          unfold interfaceName at h
          split at h <;> cases h
        | expression written => cases h
        | text text =>
          unfold interfaceName at h
          split at h
          · next word =>
            obtain ⟨texts, rfl, rfl⟩ := ih.1 h
            refine ⟨text :: texts, ?_, by simp [List.getLast?_cons]⟩
            rw [List.map_cons, naming, ← eq_of_beq word]
          · cases h
    · rintro ⟨texts, given, rfl⟩
      cases texts with
      | nil => cases given
      | cons text texts =>
        obtain ⟨rfl, rfl⟩ := List.cons.inj given
        have named : ModulePath.isWord ⟨false, [.plain "name"]⟩ "name" = true := rfl
        simp only [naming, interfaceName, named, if_true]
        exact ih.2 ⟨texts, rfl, by simp [List.getLast?_cons]⟩

/-! ## Traits -/

/-- the conditions on a trait that declares a service, and on the arguments of its attribute -/
structure TraitDecl.IsService (t : TraitDecl) (arguments : List AttributeArgument) : Prop where
  arguments : ∀ a ∈ arguments, ∃ text, a = .naming text
  generics : t.generics.IsAbsent
  inhabited : t.items ≠ []
  methods : ∀ i ∈ t.items, ∃ m, i = .method m ∧ m.IsServiceMethod

/-- what a service has of the trait that declares it -/
structure TraitDecl.Declares (t : TraitDecl) (arguments : List AttributeArgument) (s : ServiceDef) : Prop where
  name : s.name = t.name
  visibility : s.visibility = t.visibility
  /-- the last argument names the interface; without arguments it has the name of the trait -/
  interface : ∃ texts : List String, arguments = texts.map .naming ∧ s.interfaceName = texts.getLast?.getD t.name.text
  /-- the methods are those of the trait, in order -/
  methods : ∃ ms, t.items = ms.map TraitItem.method ∧ List.Forall₂ MethodDecl.Declares ms s.methods
  trait : s.trait = t.stripped

/-- all items are methods that meet the conditions exactly when they are read as the methods of a service -/
theorem MethodDef.exists_ofItems_iff {items : List TraitItem} :
    (∃ ds, ofItems items = .ok ds) ↔ ∀ i ∈ items, ∃ m, i = .method m ∧ m.IsServiceMethod := by
  constructor
  · rintro ⟨ds, h⟩ i hi
    obtain ⟨ms, rfl, matched⟩ := ofItems_eq_ok_iff.1 h
    obtain ⟨m, hm, rfl⟩ := List.mem_map.1 hi
    exact ⟨m, rfl, (List.forall₂_and_left _ _ |>.1 matched).1 m hm⟩
  · intro h
    induction items with
    | nil => exact ⟨[], rfl⟩
    | cons i r ih =>
      obtain ⟨⟨m, rfl, conditions⟩, rest⟩ := List.forall_mem_cons.1 h
      obtain ⟨ds, hr⟩ := ih rest
      obtain ⟨d, hd⟩ := exists_ofDecl_iff.2 conditions
      exact ⟨d :: ds, ofItems_method_eq_ok_iff.2 ⟨d, ds, hd, hr, rfl⟩⟩

/-- arguments give a name exactly when each of them is one that names -/
theorem AttributeArgument.exists_interfaceName_iff {name : String} {arguments : List AttributeArgument} :
    (∃ interface, interfaceName name arguments = .ok interface) ↔ ∀ a ∈ arguments, ∃ text, a = .naming text := by
  constructor
  · rintro ⟨interface, h⟩ a ha
    obtain ⟨texts, rfl, -⟩ := interfaceName_eq_ok_iff.1 h
    obtain ⟨text, -, rfl⟩ := List.mem_map.1 ha
    exact ⟨text, rfl⟩
  · intro h
    have given : arguments ∈ Set.range (List.map naming) := by
      rw [Set.range_list_map]
      exact fun a ha => (h a ha).imp fun _ => Eq.symm
    obtain ⟨texts, rfl⟩ := given
    exact ⟨_, interfaceName_eq_ok_iff.2 ⟨texts, rfl, rfl⟩⟩

namespace ServiceDef

variable {t : TraitDecl} {arguments : List AttributeArgument} {s : ServiceDef}

theorem ofNamed_eq_ok_iff {interface : String} : ofNamed t interface = .ok s ↔
    t.generics.IsAbsent ∧ t.items ≠ [] ∧ ∃ methods, MethodDef.ofItems t.items = .ok methods ∧
      s = ⟨t.stripped, t.name, t.visibility, interface, methods⟩ := by
  unfold ofNamed
  rw [← Generics.isGeneric_eq_false_iff]
  cases t.generics.isGeneric with
  | true => simp
  | false =>
    cases hm : MethodDef.ofItems t.items with
    | error e => simp [bind, Except.bind]
    | ok methods =>
      -- there is a method for each item
      have inhabited : methods.isEmpty = false ↔ t.items ≠ [] := by
        obtain ⟨ms, items, matched⟩ := MethodDef.ofItems_eq_ok_iff.1 hm
        rw [items]
        cases matched <;> simp
      rw [← inhabited]
      cases methods <;> simp [bind, Except.bind, eq_comm]

theorem ofTrait_eq_ok_iff_named : ofTrait t arguments = .ok s ↔
    ∃ interface, AttributeArgument.interfaceName t.name.text arguments = .ok interface ∧
      ofNamed t interface = .ok s := by
  unfold ofTrait
  cases AttributeArgument.interfaceName t.name.text arguments <;> simp [bind, Except.bind]

/-- a trait is read as a service exactly under the conditions, and as the service that it declares -/
theorem ofTrait_eq_ok_iff : ofTrait t arguments = .ok s ↔ t.IsService arguments ∧ t.Declares arguments s := by
  rw [ofTrait_eq_ok_iff_named]
  constructor
  · rintro ⟨interface, hi, h⟩
    obtain ⟨generics, inhabited, methods, hm, rfl⟩ := ofNamed_eq_ok_iff.1 h
    obtain ⟨ms, items, matched⟩ := MethodDef.ofItems_eq_ok_iff.1 hm
    refine ⟨⟨AttributeArgument.exists_interfaceName_iff.1 ⟨_, hi⟩, generics, inhabited,
      MethodDef.exists_ofItems_iff.1 ⟨_, hm⟩⟩, ⟨rfl, rfl, AttributeArgument.interfaceName_eq_ok_iff.1 hi, ?_, rfl⟩⟩
    exact ⟨ms, items, matched.imp fun _ _ h => h.2⟩
  · rintro ⟨conditions, declares⟩
    obtain ⟨trait, name, visibility, interface, methods⟩ := s
    obtain ⟨rfl, rfl, named, ⟨ms, items, matched⟩, rfl⟩ := declares
    have methodsMeet : ∀ m ∈ ms, m.IsServiceMethod := by
      intro m hm
      obtain ⟨_, ⟨⟩, h⟩ := conditions.methods (.method m) (items ▸ List.mem_map_of_mem hm)
      exact h
    exact ⟨interface, AttributeArgument.interfaceName_eq_ok_iff.2 named,
      ofNamed_eq_ok_iff.2 ⟨conditions.generics, conditions.inhabited, methods, MethodDef.ofItems_eq_ok_iff.2
        ⟨ms, items, (List.forall₂_and_left _ _).2 ⟨methodsMeet, matched⟩⟩, rfl⟩⟩

end ServiceDef

/-- **The grammar of services.** For every trait and all arguments of its attribute:
- the trait declares a service exactly when every argument is `name` with a string, the trait is not generic, it has an
  item, and every item is a method that is not `async` and not generic, has `&self` in front, else only plain names with
  owned types, and gives a `Result` of two types;
- the service has the methods of the trait in order, each with its parameters in order and the two types of its `Result`,
  an optional type exactly for a parameter that is written `Option` of one type, the markers as they stand, and the name
  of the interface that the last argument gives. -/
theorem service_grammar (t : TraitDecl) (arguments : List AttributeArgument) :
    ((∃ s, ServiceDef.ofTrait t arguments = .ok s) ↔ t.IsService arguments) ∧
      ∀ s, ServiceDef.ofTrait t arguments = .ok s ↔ t.IsService arguments ∧ t.Declares arguments s := by
  refine ⟨⟨?_, ?_⟩, fun s => ServiceDef.ofTrait_eq_ok_iff⟩
  · rintro ⟨s, h⟩
    exact (ServiceDef.ofTrait_eq_ok_iff.1 h).1
  · intro conditions
    obtain ⟨interface, hi⟩ := AttributeArgument.exists_interfaceName_iff.2 conditions.arguments
    obtain ⟨methods, hm⟩ := MethodDef.exists_ofItems_iff.2 conditions.methods
    exact ⟨_, ServiceDef.ofTrait_eq_ok_iff_named.2 ⟨interface, hi,
      ServiceDef.ofNamed_eq_ok_iff.2 ⟨conditions.generics, conditions.inhabited, methods, hm, rfl⟩⟩⟩

end Loopback.Declaration
