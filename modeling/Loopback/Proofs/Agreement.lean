/-
Descriptor, proxy and invoker agree.

The three generators walk the methods of a service apart from each other. Whatever trait declares the service, they tell
the same of it: the same methods in the same order under the same names, and of every parameter the same way of passing
it, at the index where it is declared.
- `Parameter.Passed`, `Parameter.passed`: a parameter is written in one of four ways, and the same way by all three;
- `MethodDecl.Written`, `MethodDef.written`: so the code of a method is told from its declaration;
- `generators_agree`: the agreement, method by method and parameter by parameter, and what meets any other name.
-/
import Loopback.Proofs.Declared
import Loopback.Proofs.GeneratedCode
import Loopback.Proofs.TraitName

namespace Loopback.Declaration

/-! ## Parameters -/

/-- a name bound to what an access gives, which may fail -/
def letWords (name : Ident) (access : List String) : List String :=
  ["let", name.text, "="] ++ access ++ ["?", ";"]

/-- the description of a parameter -/
def flagWords (name : Ident) (bypass optional : Bool) : List String :=
  pathWords ["localrpc", "proxy", "ParameterDescriptor"] ++
    braceWords ["name", ":", quoted name.text, ",", "bypass", ":", truthWord bypass, ",", "optional", ":",
      truthWord optional, ","]

/-- the ways to pass a parameter at an index: what appends it to the call, what binds it from the record, and its
description -/
inductive Parameter.Passed (i : Nat) : Parameter → (step binding description : List String) → Prop
  | value {attributes : List Attribute} {name : Ident} {type : TypeExpr}
      (unmarked : hasBypass attributes = false) (plain : type.optional? = none) :
      Passed i ⟨attributes, name, type⟩
        (callWords "call" "argument" type.words ["&", name.text])
        (letWords name (callWords "invocation" "argument" (type.words ++ [",", "C"]) [indexWord i, ",", "codec"]))
        (flagWords name false false)
  | optional {attributes : List Attribute} {name : Ident} {type inner : TypeExpr}
      (unmarked : hasBypass attributes = false) (option : type.optional? = some inner) :
      Passed i ⟨attributes, name, type⟩
        (callWords "call" "optional_argument" inner.words [name.text, ".", "as_ref", "(", ")"])
        (letWords name
          (callWords "invocation" "optional_argument" (inner.words ++ [",", "C"]) [indexWord i, ",", "codec"]))
        (flagWords name false true)
  | bypass {attributes : List Attribute} {name : Ident} {type : TypeExpr}
      (marked : hasBypass attributes = true) (plain : type.optional? = none) :
      Passed i ⟨attributes, name, type⟩
        (callWords "call" "bypass_argument" type.words [name.text])
        (letWords name (callWords "invocation" "take_bypass" type.words [indexWord i]))
        (flagWords name true false)
  | optionalBypass {attributes : List Attribute} {name : Ident} {type inner : TypeExpr}
      (marked : hasBypass attributes = true) (option : type.optional? = some inner) :
      Passed i ⟨attributes, name, type⟩
        (callWords "call" "optional_bypass_argument" inner.words [name.text])
        (letWords name (callWords "invocation" "take_optional_bypass" inner.words [indexWord i]))
        (flagWords name true true)

theorem ArgumentBinding.texts_code_eq (b : ArgumentBinding) {access : List String}
    (h : Tokens.texts b.valueCode = access ++ ["?"]) : Tokens.texts b.code = letWords b.name access := by
  simp [texts_code, h, letWords]

/-- whatever a parameter is, the three generators write it in one of the ways, which is the same for all -/
theorem Parameter.passed (p : Parameter) (i : Nat) :
    p.Passed i (Tokens.texts (MarshalStep.ofParam p.toDef).code) (Tokens.texts (ArgumentBinding.ofParam i p.toDef).code)
      (Tokens.texts (ParameterDescriptor.ofParam p.toDef).code) := by
  obtain ⟨attributes, name, type⟩ := p
  rw [MarshalStep.texts_code, MarshalStep.texts_argumentCode, ParameterDescriptor.texts_code,
    ArgumentBinding.texts_code_eq _ (ArgumentBinding.texts_valueCode _)]
  simp only [MarshalStep.ofParam, ArgumentBinding.ofParam, ParameterDescriptor.ofParam, toDef]
  -- each generator splits on the same two facts, the marker and the written option
  cases marked : hasBypass attributes <;> cases option : type.optional?
  case false.none => exact .value marked option
  case false.some inner => exact .optional marked option
  case true.none => exact .bypass marked option
  case true.some inner => exact .optionalBypass marked option

/-! ## Methods -/

/-- the description of a method -/
def describedWords (name : String) (descriptions : List (List String)) (byReference : Bool) : List String :=
  pathWords ["localrpc", "proxy", "MethodDescriptor"] ++
    braceWords (["name", ":", quoted name, ",", "parameters", ":", "&", "["] ++ commaWords descriptions ++
      ["]", ",", "result_bypass", ":", truthWord byReference, ","])

/-- the method of a proxy: the call is dispatched under the name, each step appends an argument, and the call is
completed or gives the failure that kept it from being made -/
def forwardedWords (name : Ident) (ps : List Parameter) (output ok err : TypeExpr) (steps : List (List String))
    (byReference : Bool) : List String :=
  ["fn", name.text, "(", "&", "self", ","] ++ commaWords (ps.map fun p => [p.name.text, ":"] ++ p.type.words) ++
    [")", "-", ">"] ++ output.words ++
    braceWords (["let", "call", "=", "self", ".", "dispatcher", ".", "call", "(", quoted name.text, ")"] ++
      steps.flatMap (fun s => [".", "and_then", "(", "|", "call", "|"] ++ s ++ [")"]) ++ [";", "match", "call"] ++
      braceWords (pathWords ["core", "result", "Result", "Ok"] ++ ["(", "call", ")", "=", ">"] ++
        callWords "call" (if byReference then "invoke_bypass" else "invoke") (ok.words ++ [","] ++ err.words) [] ++
        [","] ++ pathWords ["core", "result", "Result", "Err"] ++ ["(", "error", ")", "=", ">"] ++
        pathWords ["core", "result", "Result", "Err"] ++ ["(", "<"] ++ err.words ++ ["as"] ++
        pathWords ["core", "convert", "From"] ++ ["<"] ++ pathWords ["localrpc", "InvocationError"] ++
        [">", ">", ":", ":", "from", "(", "error", ")", ",", ")", ","]))

/-- the arm of an invoker: the record is checked against the types in order, the arguments are bound, and what the
implementation gives is encoded -/
def answeredWords (name : Ident) (ps : List Parameter) (bindings : List (List String)) (byReference : Bool) :
    List String :=
  [quoted name.text, "=", ">"] ++
    braceWords (["invocation", ".", "expect_signature", "(", "&", "["] ++
      commaWords (ps.map fun p =>
        pathWords ["std", "any", "type_name"] ++ [":", ":", "<"] ++ p.type.words ++ [">", "(", ")"]) ++
      ["]", ",", truthWord byReference, ",", ")", "?", ";"] ++ bindings.flatten ++
      pathWords ["localrpc", "invoker", if byReference then "encode_bypass" else "encode_value"] ++
      ["(", "codec", ",", "service", ".", name.text, "("] ++ commaWords (ps.map fun p => [p.name.text]) ++ [")", ")"])

/-- the description of a method, the method of the proxy and the arm of the invoker, told from the declaration: there is
a step, a binding and a description for each of the parameters, in order, and the result is passed in one way -/
inductive MethodDecl.Written (m : MethodDecl) : (described forwarded answered : List String) → Prop
  | intro {ps : List Parameter} {output ok err : TypeExpr} {descriptions steps bindings : List (List String)}
      (declared : Parameter.ofInputs? m.inputs = some ps) (result : m.result? = some (output, ok, err))
      (described : descriptions.length = ps.length) (forwarded : steps.length = ps.length)
      (bound : bindings.length = ps.length)
      (passed : ∀ i (p : Parameter) step binding description, ps[i]? = some p → steps[i]? = some step →
        bindings[i]? = some binding → descriptions[i]? = some description → p.Passed i step binding description) :
      m.Written (describedWords m.name.text descriptions (hasBypass m.attributes))
        (forwardedWords m.name ps output ok err steps (hasBypass m.attributes))
        (answeredWords m.name ps bindings (hasBypass m.attributes))

section

variable {d : MethodDef} {ps : List Parameter}

theorem MethodDescriptor.texts_ofMethod (h : d.params = ps.map Parameter.toDef) :
    Tokens.texts (ofMethod d).code =
      describedWords d.name.text (ps.map fun p => Tokens.texts (ParameterDescriptor.ofParam p.toDef).code)
        d.resultBypass := by
  rw [texts_code]
  simp [ofMethod, describedWords, h, Function.comp_def]

theorem Completion.text_ofMethod (d : MethodDef) :
    (ofMethod d).name.text = if d.resultBypass then "invoke_bypass" else "invoke" := by
  unfold ofMethod
  split <;> rfl

theorem ProxyMethod.texts_ofMethod (h : d.params = ps.map Parameter.toDef) :
    Tokens.texts (ofMethod d).code =
      forwardedWords d.name ps d.output d.okType d.errType
        (ps.map fun p => Tokens.texts (MarshalStep.ofParam p.toDef).code) d.resultBypass := by
  rw [texts_code, texts_callCode, texts_completionCode]
  simp [ofMethod, forwardedWords, h, Completion.text_ofMethod, Parameter.toDef, List.flatMap_map, Function.comp_def]

theorem ResultEncoding.texts_ofMethod (d : MethodDef) : Tokens.texts (ofMethod d).code =
    pathWords ["localrpc", "invoker", if d.resultBypass then "encode_bypass" else "encode_value"] := by
  rw [texts_code]
  unfold ofMethod
  cases d.resultBypass <;> rfl

theorem InvokerArm.texts_ofMethod (h : d.params = ps.map Parameter.toDef) :
    Tokens.texts (ofMethod d).code =
      answeredWords d.name ps (ps.mapIdx fun i p => Tokens.texts (ArgumentBinding.ofParam i p.toDef).code)
        d.resultBypass := by
  have bindings : ((ps.map Parameter.toDef).mapIdx ArgumentBinding.ofParam).map (fun b => Tokens.texts b.code) =
      ps.mapIdx fun i p => Tokens.texts (ArgumentBinding.ofParam i p.toDef).code := by
    refine List.ext_getElem? fun i => ?_
    simp [Function.comp_def]
  rw [texts_code, texts_checkCode, texts_callCode]
  simp only [ofMethod, answeredWords, h, ResultEncoding.texts_ofMethod, List.flatMap_def, bindings]
  simp [Parameter.toDef, Function.comp_def]

end

/-- what the generators make of a method is written from its declaration -/
theorem MethodDef.written {m : MethodDecl} {d : MethodDef} (h : ofDecl m = .ok d) :
    m.Written (Tokens.texts (MethodDescriptor.ofMethod d).code) (Tokens.texts (ProxyMethod.ofMethod d).code)
      (Tokens.texts (InvokerArm.ofMethod d).code) := by
  obtain ⟨ps, output, ok, err, declared, result, rfl⟩ := ofDecl_ok h
  rw [MethodDescriptor.texts_ofMethod rfl, ProxyMethod.texts_ofMethod rfl, InvokerArm.texts_ofMethod rfl]
  refine .intro declared result (by simp) (by simp) (by simp) fun i p step binding description hp hs hb hd => ?_
  simp only [List.getElem?_map, List.getElem?_mapIdx, hp, Option.map_some, Option.some.injEq] at hs hb hd
  subst hs hb hd
  exact p.passed i

/-- what the three generators make of a method fits its declaration -/
structure MethodDecl.Agrees (m : MethodDecl) (d : MethodDescriptor) (p : ProxyMethod) (a : InvokerArm) : Prop where
  /-- the proxy dispatches by the name that the arm answers to and that the descriptor lists -/
  name : d.name = m.name.text ∧ p.methodName = m.name.text ∧ a.methodName = m.name.text
  /-- the arm expects the declared types in order -/
  expected : (Parameter.ofInputs? m.inputs).map (List.map Parameter.type) = some a.expected
  /-- whether the result is passed by reference -/
  reference : (p.completion = .invokeBypass ↔ a.encoding = .bypass) ∧
    (a.encoding = .bypass ↔ a.expectedBypass = true) ∧ (a.expectedBypass = true ↔ d.resultBypass = true)
  written : m.Written (Tokens.texts d.code) (Tokens.texts p.code) (Tokens.texts a.code)

theorem MethodDef.agrees {m : MethodDecl} {d : MethodDef} (h : ofDecl m = .ok d) :
    m.Agrees (.ofMethod d) (.ofMethod d) (.ofMethod d) := by
  have written := MethodDef.written h
  obtain ⟨ps, output, ok, err, declared, result, rfl⟩ := ofDecl_ok h
  refine ⟨⟨rfl, rfl, rfl⟩, ?expected, ?reference, written⟩
  case expected => simp [declared, InvokerArm.ofMethod, Parameter.toDef, Function.comp_def]
  case reference =>
    simp only [ProxyMethod.ofMethod, InvokerArm.ofMethod, MethodDescriptor.ofMethod, Completion.ofMethod,
      ResultEncoding.ofMethod]
    cases hasBypass m.attributes <;> simp

/-! ## Services -/

/-- the arm that answers to a name: the first one whose literal is that name; a name without one meets what stands
behind the arms -/
def InvokerDef.armFor? (i : InvokerDef) (name : String) : Option InvokerArm :=
  i.arms.find? fun a => a.methodName == name

/-- the arm behind all others, which refuses the name that the record asks for -/
def otherWords (interface : String) : List String :=
  ["other", "=", ">"] ++ pathWords ["core", "result", "Result", "Err"] ++ ["("] ++
    pathWords ["localrpc", "invoker", "unknown_method"] ++ ["(", quoted interface, ",", "other", ")", ",", ")", ","]

/-- what is generated for a service fits the methods that its trait declares -/
structure Expansion.Agrees (e : Expansion) (ms : List MethodDecl) : Prop where
  described : e.descriptor.methods.length = ms.length
  forwarded : e.proxy.methods.length = ms.length
  answered : e.invoker.arms.length = ms.length
  method : ∀ (k : Nat) (m : MethodDecl) (d : MethodDescriptor) (p : ProxyMethod) (a : InvokerArm), ms[k]? = some m →
    e.descriptor.methods[k]? = some d → e.proxy.methods[k]? = some p → e.invoker.arms[k]? = some a → m.Agrees d p a
  /-- no arm answers to a name that no method has -/
  other : ∀ name, e.invoker.armFor? name = none ↔ ∀ m ∈ ms, m.name.text ≠ name
  descriptorCode :
    commaWords (e.descriptor.methods.map fun d => Tokens.texts d.code) <:+: Tokens.texts e.descriptor.code
  proxyCode : e.proxy.methods.flatMap (fun p => Tokens.texts p.code) <:+: Tokens.texts e.proxy.code
  /-- the arms stand in order, and behind them the one that refuses all other names -/
  invokerCode : e.invoker.arms.flatMap (fun a => Tokens.texts a.code) ++ otherWords e.invoker.interfaceName <:+:
    Tokens.texts e.invoker.code

theorem Expansion.ofService?_agrees {s : ServiceDef} {ms : List MethodDecl} {e : Expansion}
    (h : List.Forall₂ (fun m d => MethodDef.ofDecl m = .ok d) ms s.methods) (he : ofService? s = some e) :
    e.Agrees ms := by
  obtain ⟨descriptor, hd, he⟩ := Option.bind_eq_some_iff.mp he
  obtain ⟨proxy, hp, he⟩ := Option.bind_eq_some_iff.mp he
  obtain ⟨constant, -, rfl⟩ := Option.map_eq_some_iff.mp hd
  obtain ⟨constant, -, rfl⟩ := Option.map_eq_some_iff.mp hp
  cases he
  have length : s.methods.length = ms.length := h.length_eq.symm
  refine ⟨by simp [length], by simp [length], by simp [InvokerDef.ofService, length], ?method, ?other,
    Descriptor.methods_infix _, Proxy.methods_infix _, ?invoker⟩
  case method =>
    intro k m d p a hm hd hp ha
    simp only [InvokerDef.ofService, List.getElem?_map, Option.map_eq_some_iff] at hd hp ha
    -- at one index all three were made of one method
    obtain ⟨made, hmade, rfl⟩ := hd
    obtain ⟨_, hp, rfl⟩ := hp
    obtain ⟨_, ha, rfl⟩ := ha
    cases hmade.symm.trans hp
    cases hmade.symm.trans ha
    obtain ⟨lm, rfl⟩ := List.getElem?_eq_some_iff.mp hm
    obtain ⟨ld, rfl⟩ := List.getElem?_eq_some_iff.mp hmade
    exact MethodDef.agrees (h.get lm ld)
  case other =>
    intro name
    have names : s.methods.map (·.name) = ms.map (·.name) := MethodDef.names_of_forall₂ h
    have answers : (∀ d ∈ s.methods, d.name.text ≠ name) ↔ ∀ i ∈ s.methods.map (·.name), i.text ≠ name := by simp
    rw [InvokerDef.armFor?, List.find?_eq_none]
    simp only [InvokerDef.ofService, List.forall_mem_map, InvokerArm.ofMethod, beq_iff_eq]
    rw [answers, names, List.forall_mem_map]
  case invoker =>
    have arms := InvokerDef.arms_infix (.ofService s)
    rw [InvokerDef.texts_armsCode] at arms
    simpa [otherWords] using arms

/-- descriptor, proxy and invoker of a service agree with the trait that declares it, and so with each other; a raw name
has no constant for the descriptor, and every other name that is read is plain (`TraitDecl.read?_isPlain`) -/
theorem generators_agree {t : TraitDecl} {arguments : List AttributeArgument} {s : ServiceDef}
    (accepted : ServiceDef.ofTrait t arguments = .ok s) (plain : t.name.IsPlain) :
    ∃ e ms, Expansion.ofService? s = some e ∧ t.items = ms.map TraitItem.method ∧ e.Agrees ms := by
  obtain ⟨name, ms, items, methods⟩ := ServiceDef.ofTrait_ok accepted
  obtain ⟨e, he⟩ := Expansion.ofService?_of_isPlain (name ▸ plain)
  exact ⟨e, ms, he, items, Expansion.ofService?_agrees methods he⟩

/-! ## A warehouse -/

namespace Warehouse

/-- a type without arguments -/
def simple (name : String) : TypeExpr :=
  .path false [] (.plain name) .none

/-- a type with types as arguments -/
def applied (name : String) (arguments : List TypeExpr) : TypeExpr :=
  .path false [] (.plain name) (.angled false (arguments.map .type) false)

def marker : Attribute :=
  ⟨false, ⟨false, [.plain "bypass"]⟩, []⟩

/-- a method with a receiver -/
def method (attributes : List Attribute) (name : String) (inputs : List (List Attribute × String × TypeExpr))
    (ok : TypeExpr) : MethodDecl where
  attributes := attributes
  isConst := false
  isAsync := false
  isUnsafe := false
  abi := []
  name := .plain name
  generics := .none
  inputs := .receiver [] (.borrowed none false) ::
    inputs.map fun (marks, name, type) => .typed marks (.name false false (.plain name) none) type
  trailing := false
  variadic := []
  output := some (applied "Result" [ok, simple "StockError"])
  body := none

/-- stock is taken with parameters that are passed in each of the ways, and a shelf is lent by reference -/
def methods : List MethodDecl :=
  [method [] "take" [([], "item", simple "u64"), ([], "note", applied "Option" [simple "String"]),
      ([marker], "shelf", simple "Shelf"), ([marker], "spare", applied "Option" [simple "Shelf"])] (simple "u32"),
    method [marker] "lend" [([], "shelf", simple "u8")] (simple "Shelf")]

/-- the trait of a warehouse, whose name takes two words -/
def trait : TraitDecl where
  attributes := []
  visibility := []
  isUnsafe := false
  isAuto := false
  name := .plain "StockRoom"
  generics := .none
  bounds := []
  items := methods.map .method

end Warehouse

theorem generators_agree_warehouse : ∃ s e, ServiceDef.ofTrait Warehouse.trait [] = .ok s ∧
    Warehouse.trait.name.IsPlain ∧ Expansion.ofService? s = some e ∧ e.Agrees Warehouse.methods := by
  obtain ⟨s, accepted⟩ : ∃ s, ServiceDef.ofTrait Warehouse.trait [] = .ok s := ⟨_, rfl⟩
  have plain : Warehouse.trait.name.IsPlain := by
    unfold Ident.IsPlain
    decide
  obtain ⟨e, ms, generated, items, agrees⟩ := generators_agree accepted plain
  have same : Warehouse.methods = ms := by
    have injective : Function.Injective TraitItem.method := fun _ _ h => TraitItem.method.inj h
    exact List.map_injective_iff.mpr injective items
  exact ⟨s, e, accepted, plain, generated, same ▸ agrees⟩

end Loopback.Declaration
