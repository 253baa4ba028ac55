/-
Names of parameters in generated code.

The generators write the names of parameters next to variables of their own: a proxy binds the call around each argument,
and an invoker binds each parameter while it still uses the record, the codec and the implementation. A `Snippet` is code
with its scopes: its words are those that are generated, and every use of a variable says whose variable is meant.
- `Snippet.uses`: the uses of a snippet, each with what is meant and what the scope says;
- `ProxyMethod.texts_code_eq`, `InvokerDef.snippet_infix`: the words of the snippets are the generated code;
- `captured_iff`: a proxy method keeps its names apart exactly when no parameter is called `call`, and an arm exactly when
  none is called `codec` or `service`, and none but the last `invocation`;
- `names_captured`: a trait whose generated code mixes them up.
-/
import Loopback.Proofs.Agreement

namespace Loopback.Declaration

/-! ## Scopes -/

/-- whose variable a name stands for -/
inductive Binder where
  /-- a variable that the generator brings along -/
  | generator
  /-- a parameter of the method -/
  | parameter
deriving DecidableEq

/-- the variables that are bound, the innermost first -/
abbrev Scope := List (Ident × Binder)

/-- whose variable a name stands for in a scope; a raw name and a plain one are the same variable -/
def Scope.binder? (scope : Scope) (name : Ident) : Option Binder :=
  (scope.find? fun b => b.1.name == name.name).map (·.2)

@[simp] theorem Scope.binder?_cons (i : Ident) (b : Binder) (scope : Scope) (name : Ident) :
    binder? ((i, b) :: scope) name = if i.name = name.name then some b else binder? scope name := by
  unfold binder?
  rw [List.find?_cons]
  split
  · next h => rw [if_pos (eq_of_beq h)]; rfl
  · next h => rw [if_neg (by simpa using h)]

/-- a use of a variable -/
structure Use where
  name : Ident
  meant : Binder
  /-- whose variable the name stands for where it is used, if anyone's -/
  found : Option Binder
deriving DecidableEq

/-! ## Snippets -/

/-- code with its scopes -/
inductive Snippet where
  /-- words that neither bind a variable nor use one -/
  | plain (ws : List String)
  /-- a use of a variable, and whose is meant -/
  | use (name : Ident) (meant : Binder)
  /-- code behind other code, in the same scope -/
  | seq (a b : Snippet)
  /-- a variable of a pattern, and the code in its scope -/
  | binding (name : Ident) (binder : Binder) (body : Snippet)
  /-- a variable with its value, which is not in its scope, and the code behind it -/
  | letIn (name : Ident) (binder : Binder) (value rest : Snippet)

namespace Snippet

instance : Append Snippet := ⟨seq⟩

/-- a snippet as it is written -/
def words : Snippet → List String
  | plain ws => ws
  | use name _ => [name.text]
  | seq a b => a.words ++ b.words
  | binding name _ body => name.text :: body.words
  | letIn name _ value rest => ["let", name.text, "="] ++ value.words ++ [";"] ++ rest.words

/-- the uses of a snippet in a scope, in order -/
def uses : Snippet → Scope → List Use
  | plain _, _ => []
  | use name meant, scope => [⟨name, meant, scope.binder? name⟩]
  | seq a b, scope => a.uses scope ++ b.uses scope
  | binding name binder body, scope => body.uses ((name, binder) :: scope)
  | letIn name binder value rest, scope => value.uses scope ++ rest.uses ((name, binder) :: scope)

/-- in a scope every name stands for the variable that is meant -/
def IsHygienic (c : Snippet) (scope : Scope) : Prop :=
  ∀ u ∈ c.uses scope, u.found = some u.meant

instance (c : Snippet) (scope : Scope) : Decidable (c.IsHygienic scope) :=
  inferInstanceAs (Decidable (∀ u ∈ c.uses scope, u.found = some u.meant))

section

variable (ws : List String) (name : Ident) (b : Binder) (c d : Snippet) (scope : Scope)

@[simp] theorem words_plain : (plain ws).words = ws := rfl

@[simp] theorem words_use : (use name b).words = [name.text] := rfl

@[simp] theorem words_append : (c ++ d).words = c.words ++ d.words := rfl

@[simp] theorem words_binding : (binding name b c).words = name.text :: c.words := rfl

@[simp] theorem words_letIn :
    (letIn name b c d).words = ["let", name.text, "="] ++ c.words ++ [";"] ++ d.words := rfl

@[simp] theorem isHygienic_plain : (plain ws).IsHygienic scope ↔ True := by
  simp [IsHygienic, uses]

@[simp] theorem isHygienic_use : (use name b).IsHygienic scope ↔ scope.binder? name = some b := by
  simp [IsHygienic, uses]

@[simp] theorem isHygienic_append :
    (c ++ d).IsHygienic scope ↔ c.IsHygienic scope ∧ d.IsHygienic scope :=
  List.forall_mem_append

@[simp] theorem isHygienic_binding :
    (binding name b c).IsHygienic scope ↔ c.IsHygienic ((name, b) :: scope) := Iff.rfl

@[simp] theorem isHygienic_letIn :
    (letIn name b c d).IsHygienic scope ↔ c.IsHygienic scope ∧ d.IsHygienic ((name, b) :: scope) :=
  List.forall_mem_append

end

/-- snippets one behind the other, in the same scope -/
def all : List Snippet → Snippet
  | [] => plain []
  | c :: r => c ++ all r

@[simp] theorem words_all (l : List Snippet) : (all l).words = l.flatMap words := by
  induction l with
  | nil => rfl
  | cons c r ih => simp [all, ih]

@[simp] theorem isHygienic_all {l : List Snippet} {scope : Scope} :
    (all l).IsHygienic scope ↔ ∀ c ∈ l, c.IsHygienic scope := by
  induction l with
  | nil => simp [all]
  | cons c r ih => simp [all, ih]

/-- snippets with a comma between any two, in the same scope -/
def listed : List Snippet → Snippet
  | [] => plain []
  | [c] => c
  | c :: r => c ++ plain [","] ++ listed r

@[simp] theorem words_listed (l : List Snippet) : (listed l).words = commaWords (l.map words) := by
  unfold commaWords
  induction l with
  | nil => rfl
  | cons c r ih =>
    cases r with
    | nil => simp [listed]
    | cons d r =>
      simp only [listed, words_append, words_plain, ih, List.map_cons, List.intercalate_cons_cons]

@[simp] theorem isHygienic_listed {l : List Snippet} {scope : Scope} :
    (listed l).IsHygienic scope ↔ ∀ c ∈ l, c.IsHygienic scope := by
  induction l with
  | nil => simp [listed]
  | cons c r ih =>
    cases r with
    | nil => simp [listed]
    | cons d r => simp [listed, ih]

/-- the call of a generic method of a variable that the generator brings along -/
def call (receiver : Ident) (method : String) (generics : List String) (arguments : Snippet) : Snippet :=
  use receiver .generator ++ plain ([".", method, ":", ":", "<"] ++ generics ++ [">", "("]) ++ arguments ++ plain [")"]

@[simp] theorem words_call (receiver : Ident) (method : String) (generics : List String) (arguments : Snippet) :
    (call receiver method generics arguments).words = callWords receiver.text method generics arguments.words := by
  simp [call, callWords]

@[simp] theorem isHygienic_call {receiver : Ident} {method : String} {generics : List String} {arguments : Snippet}
    {scope : Scope} : (call receiver method generics arguments).IsHygienic scope ↔
      scope.binder? receiver = some .generator ∧ arguments.IsHygienic scope := by
  simp [call]

end Snippet

/-! ## Proxies -/

namespace MarshalStep

/-- how the argument of a step is read from the parameter -/
def argumentSnippet (m : MarshalStep) : Snippet :=
  match m.operation with
  | .argument => .plain ["&"] ++ .use m.source .parameter
  | .optionalArgument => .use m.source .parameter ++ .plain [".", "as_ref", "(", ")"]
  | .bypassArgument => .use m.source .parameter
  | .optionalBypassArgument => .use m.source .parameter

/-- the closure that appends the argument to the call that it is given -/
def snippet (m : MarshalStep) : Snippet :=
  .plain [".", "and_then", "(", "|"] ++
    .binding ProxyMethod.callName .generator
      (.plain ["|"] ++ .call ProxyMethod.callName m.operation.name.text m.type.words m.argumentSnippet) ++
    .plain [")"]

theorem words_snippet (m : MarshalStep) :
    m.snippet.words = [".", "and_then", "(", "|", "call", "|"] ++ Tokens.texts m.code ++ [")"] := by
  have argument : m.argumentSnippet.words = Tokens.texts m.argumentCode := by
    rw [texts_argumentCode]
    unfold argumentSnippet
    cases m.operation <;> rfl
  rw [texts_code, ← argument]
  simp [snippet, ProxyMethod.callName]

/-- a step reads its parameter unless the parameter is called as the call is -/
theorem isHygienic_snippet {m : MarshalStep} {scope : Scope} :
    m.snippet.IsHygienic scope ↔ m.source.name ≠ "call" ∧ scope.binder? m.source = some .parameter := by
  have argument {scope : Scope} :
      m.argumentSnippet.IsHygienic scope ↔ scope.binder? m.source = some .parameter := by
    unfold argumentSnippet
    cases m.operation <;> simp
  by_cases h : m.source.name = "call"
  · simp [snippet, argument, ProxyMethod.callName, Ident.plain, h]
  · simp [snippet, argument, ProxyMethod.callName, Ident.plain, h, Ne.symm h]

end MarshalStep

/-- the parameters of a method with their types, and the code in their scope -/
def Snippet.parameters (body : Snippet) : List (Ident × TypeExpr) → Snippet
  | [] => body
  | [(name, type)] => .binding name .parameter (.plain (":" :: type.words) ++ body)
  | (name, type) :: r => .binding name .parameter (.plain (":" :: type.words ++ [","]) ++ parameters body r)

theorem Snippet.words_parameters (body : Snippet) (l : List (Ident × TypeExpr)) :
    (parameters body l).words = commaWords (l.map fun p => [p.1.text, ":"] ++ p.2.words) ++ body.words := by
  unfold commaWords
  induction l with
  | nil => rfl
  | cons p r ih =>
    cases r with
    | nil => simp [parameters]
    | cons q r =>
      simp only [parameters, words_binding, words_append, words_plain, ih, List.map_cons, List.intercalate_cons_cons]
      simp

/-- the scope inside a method, by the names of its parameters -/
def Scope.within (names : List Ident) (scope : Scope) : Scope :=
  names.foldl (fun s i => (i, .parameter) :: s) scope

theorem Snippet.isHygienic_parameters {body : Snippet} {l : List (Ident × TypeExpr)} {scope : Scope} :
    (parameters body l).IsHygienic scope ↔ body.IsHygienic (scope.within (l.map (·.1))) := by
  induction l generalizing scope with
  | nil => rfl
  | cons p r ih =>
    cases r with
    | nil => simp [parameters, Scope.within]
    | cons q r => simp [parameters, ih, Scope.within]

theorem Scope.binder?_within (names : List Ident) (scope : Scope) (name : Ident) :
    (scope.within names).binder? name =
      if ∃ i ∈ names, i.name = name.name then some .parameter else scope.binder? name := by
  induction names generalizing scope with
  | nil => simp [within]
  | cons i r ih =>
    have unfolded : scope.within (i :: r) = within r ((i, .parameter) :: scope) := rfl
    rw [unfolded, ih, binder?_cons]
    by_cases rest : ∃ j ∈ r, j.name = name.name
    · rw [if_pos rest, if_pos (List.exists_mem_cons_of_exists rest)]
    · by_cases first : i.name = name.name
      · rw [if_neg rest, if_pos first, if_pos ⟨i, List.mem_cons_self, first⟩]
      · have none : ¬∃ j ∈ i :: r, j.name = name.name := by simpa [first] using rest
        rw [if_neg rest, if_neg first, if_neg none]

theorem Scope.binder?_within_of_mem {names : List Ident} {name : Ident} (h : name ∈ names) (scope : Scope) :
    (scope.within names).binder? name = some .parameter := by
  rw [binder?_within, if_pos ⟨name, h, rfl⟩]

namespace ProxyMethod

/-- what completes the call, or gives the failure that kept it from being made -/
def completionSnippet (m : ProxyMethod) : Snippet :=
  .plain ["match"] ++ .use callName .generator ++ .plain ("\x7b" :: pathWords ["core", "result", "Result", "Ok"] ++ ["("]) ++
    .binding callName .generator
      (.plain [")", "=", ">"] ++
        .call callName m.completion.name.text (m.okType.words ++ [","] ++ m.errType.words) (.plain []) ++ .plain [","]) ++
    .plain (pathWords ["core", "result", "Result", "Err"] ++ ["("]) ++
    .binding (.plain "error") .generator
      (.plain ([")", "=", ">"] ++ pathWords ["core", "result", "Result", "Err"] ++ ["(", "<"] ++ m.errType.words ++
          ["as"] ++ pathWords ["core", "convert", "From"] ++ ["<"] ++ pathWords ["localrpc", "InvocationError"] ++
          [">", ">", ":", ":", "from", "("]) ++
        .use (.plain "error") .generator ++ .plain [")", ",", ")", ","]) ++
    .plain ["\x7d"]

/-- a method of a proxy with its scopes -/
def snippet (m : ProxyMethod) : Snippet :=
  .plain ["fn", m.name.text, "(", "&", "self", ","] ++
    .parameters
      (.plain ([")", "-", ">"] ++ m.output.words ++ ["\x7b"]) ++
        .letIn callName .generator
          (.plain ["self", ".", "dispatcher", ".", "call", "(", quoted m.methodName, ")"] ++
            .all (m.steps.map MarshalStep.snippet))
          m.completionSnippet ++
        .plain ["\x7d"])
      m.params

theorem words_completionSnippet (m : ProxyMethod) : m.completionSnippet.words = Tokens.texts m.completionCode := by
  rw [texts_completionCode]
  simp [completionSnippet, callName, callWords, braceWords]

/-- the words of the snippet are the generated code -/
theorem texts_code_eq (m : ProxyMethod) : Tokens.texts m.code = m.snippet.words := by
  have steps : (m.steps.map MarshalStep.snippet).flatMap Snippet.words = m.steps.flatMap fun s =>
      [".", "and_then", "(", "|", "call", "|"] ++ Tokens.texts s.code ++ [")"] := by
    rw [List.flatMap_map]
    exact List.flatMap_congr fun s _ => s.words_snippet
  rw [texts_code, texts_callCode]
  simp [snippet, Snippet.words_parameters, words_completionSnippet, steps, callName, braceWords]

theorem isHygienic_completionSnippet {m : ProxyMethod} {scope : Scope} :
    m.completionSnippet.IsHygienic scope ↔ scope.binder? callName = some .generator := by
  simp [completionSnippet]

/-- a proxy method whose steps read its own parameters keeps the names apart unless a parameter is called as the call
is -/
theorem isHygienic_snippet {m : ProxyMethod} (h : ∀ s ∈ m.steps, s.source ∈ m.params.map (·.1)) :
    m.snippet.IsHygienic [] ↔ ∀ s ∈ m.steps, s.source.name ≠ "call" := by
  have steps : (∀ s ∈ m.steps, s.snippet.IsHygienic (Scope.within (m.params.map (·.1)) [])) ↔
      ∀ s ∈ m.steps, s.source.name ≠ "call" := by
    refine forall₂_congr fun s hs => ?_
    rw [MarshalStep.isHygienic_snippet, Scope.binder?_within_of_mem (h s hs)]
    simp
  simp [snippet, Snippet.isHygienic_parameters, isHygienic_completionSnippet, steps]

theorem isHygienic_ofMethod (d : MethodDef) :
    (ofMethod d).snippet.IsHygienic [] ↔ ∀ p ∈ d.params, p.name.name ≠ "call" := by
  have source (p : ParamDef) : (MarshalStep.ofParam p).source = p.name := by
    unfold MarshalStep.ofParam
    split <;> rfl
  rw [isHygienic_snippet]
  · simp [ofMethod, source]
  · simp only [ofMethod, List.forall_mem_map, List.map_map]
    exact fun p hp => source p ▸ List.mem_map.2 ⟨p, hp, rfl⟩

end ProxyMethod

/-! ## Invokers -/

/-- what holds of the names that one list gives holds of the same names that another one gives -/
theorem forall_mem_iff_of_map_eq {α β γ : Type} {f : α → γ} {g : β → γ} {l : List α} {l' : List β}
    (h : l.map f = l'.map g) (q : γ → Prop) : (∀ a ∈ l, q (f a)) ↔ ∀ b ∈ l', q (g b) := by
  calc (∀ a ∈ l, q (f a))
    _ ↔ ∀ c ∈ l.map f, q c := List.forall_mem_map.symm
    _ ↔ ∀ b ∈ l', q (g b) := by rw [h, List.forall_mem_map]

namespace ArgumentBinding

/-- whether the codec takes part in giving the argument -/
def decodes (b : ArgumentBinding) : Bool :=
  b.accessor = .argument ∨ b.accessor = .optionalArgument

/-- what gives the argument -/
def valueSnippet (b : ArgumentBinding) : Snippet :=
  let decoded (method : String) : Snippet :=
    .call InvokerArm.invocationName method (b.type.words ++ [",", "C"])
      (.plain [indexWord b.index, ","] ++ .use InvokerArm.codecName .generator)
  let taken (method : String) : Snippet :=
    .call InvokerArm.invocationName method b.type.words (.plain [indexWord b.index])
  (match b.accessor with
    | .argument => decoded "argument"
    | .optionalArgument => decoded "optional_argument"
    | .takeBypass => taken "take_bypass"
    | .takeOptionalBypass => taken "take_optional_bypass") ++ .plain ["?"]

theorem words_valueSnippet (b : ArgumentBinding) : b.valueSnippet.words = Tokens.texts b.valueCode := by
  rw [texts_valueCode]
  unfold valueSnippet
  cases b.accessor <;> simp [InvokerArm.invocationName, InvokerArm.codecName]

theorem isHygienic_valueSnippet {b : ArgumentBinding} {scope : Scope} : b.valueSnippet.IsHygienic scope ↔
    scope.binder? InvokerArm.invocationName = some .generator ∧
      (b.decodes → scope.binder? InvokerArm.codecName = some .generator) := by
  unfold valueSnippet decodes
  cases b.accessor <;> simp

end ArgumentBinding

/-- bindings, each with the code behind it in its scope -/
def Snippet.bound (rest : Snippet) : List ArgumentBinding → Snippet
  | [] => rest
  | b :: r => .letIn b.name .parameter b.valueSnippet (bound rest r)

theorem Snippet.words_bound (rest : Snippet) (l : List ArgumentBinding) :
    (bound rest l).words = l.flatMap (fun b => Tokens.texts b.code) ++ rest.words := by
  induction l with
  | nil => rfl
  | cons b r ih => simp [bound, ih, ArgumentBinding.texts_code, ArgumentBinding.words_valueSnippet]

namespace InvokerArm

/-- the call of the implementation, encoded -/
def callSnippet (a : InvokerArm) : Snippet :=
  .plain (Tokens.texts a.encoding.code ++ ["("]) ++ .use codecName .generator ++ .plain [","] ++
    .use serviceName .generator ++ .plain [".", a.callee.text, "("] ++
    .listed (a.arguments.map fun i => .use i .parameter) ++ .plain [")", ")"]

/-- an arm with its scopes -/
def snippet (a : InvokerArm) : Snippet :=
  .plain [quoted a.methodName, "=", ">", "\x7b"] ++ .use invocationName .generator ++
    .plain ([".", "expect_signature", "(", "&", "["] ++
      commaWords (a.expected.map fun t =>
        pathWords ["std", "any", "type_name"] ++ [":", ":", "<"] ++ t.words ++ [">", "(", ")"]) ++
      ["]", ",", truthWord a.expectedBypass, ",", ")", "?", ";"]) ++
    .bound a.callSnippet a.bindings ++ .plain ["\x7d"]

theorem texts_code_eq (a : InvokerArm) : Tokens.texts a.code = a.snippet.words := by
  rw [texts_code, texts_checkCode, texts_callCode]
  simp [snippet, callSnippet, Snippet.words_bound, braceWords, invocationName, codecName, serviceName, Function.comp_def]

/-- bindings and the call behind them keep the names apart under these conditions on the scope and on the names that are
bound -/
theorem isHygienic_bound {a : InvokerArm} {l : List ArgumentBinding} {scope : Scope}
    (h : ∀ i ∈ a.arguments, scope.binder? i = some .parameter ∨ ∃ b ∈ l, b.name.name = i.name) :
    (Snippet.bound a.callSnippet l).IsHygienic scope ↔
      (l ≠ [] → scope.binder? invocationName = some .generator) ∧ (∀ b ∈ l.dropLast, b.name.name ≠ "invocation") ∧
        scope.binder? codecName = some .generator ∧ scope.binder? serviceName = some .generator ∧
          ∀ b ∈ l, b.name.name ≠ "codec" ∧ b.name.name ≠ "service" := by
  induction l generalizing scope with
  | nil =>
    have arguments : ∀ i ∈ a.arguments, scope.binder? i = some .parameter := fun i hi => (h i hi).resolve_right (by simp)
    simpa [Snippet.bound, callSnippet] using fun _ _ => arguments
  | cons b r ih =>
    have inside {name : Ident} : Scope.binder? ((b.name, .parameter) :: scope) name = some .generator ↔
        b.name.name ≠ name.name ∧ scope.binder? name = some .generator := by
      by_cases same : b.name.name = name.name <;> simp [same]
    have arguments : ∀ i ∈ a.arguments, Scope.binder? ((b.name, .parameter) :: scope) i = some .parameter ∨
        ∃ b ∈ r, b.name.name = i.name := by
      intro i hi
      rw [Scope.binder?_cons]
      rcases h i hi with outer | ⟨b', hb, same⟩
      · by_cases same : b.name.name = i.name <;> simp [same, outer]
      · rcases List.mem_cons.1 hb with rfl | rest
        · exact .inl (if_pos same)
        · exact .inr ⟨b', rest, same⟩
    rw [Snippet.bound, Snippet.isHygienic_letIn, ih arguments, inside, inside, inside,
      ArgumentBinding.isHygienic_valueSnippet, List.forall_mem_cons]
    -- the record is used once more only if another binding follows
    cases r with
    | nil => simp [invocationName, codecName, serviceName, Ident.plain]; tauto
    | cons b' r =>
      rw [List.dropLast_cons_of_ne_nil (List.cons_ne_nil b' r), List.forall_mem_cons]
      simp [invocationName, codecName, serviceName, Ident.plain]
      tauto

/-- the variables that an invoker has in scope where its arms stand: the name of the method that is asked for, the
record, the implementation, the codec, and the record once more -/
def surroundings : Scope :=
  [(.plain "method", .generator), (invocationName, .generator), (serviceName, .generator), (codecName, .generator),
    (invocationName, .generator)]

/-- an arm binds the names of the parameters, in order -/
theorem map_name_ofMethod (d : MethodDef) : (ofMethod d).bindings.map (·.name) = d.params.map (·.name) := by
  have name (i : Nat) (p : ParamDef) : (ArgumentBinding.ofParam i p).name = p.name := by
    unfold ArgumentBinding.ofParam
    split <;> rfl
  refine List.ext_getElem? fun i => ?_
  simp [ofMethod, Function.comp_def, name]

theorem isHygienic_ofMethod (d : MethodDef) : (ofMethod d).snippet.IsHygienic surroundings ↔
    (∀ p ∈ d.params, p.name.name ≠ "codec" ∧ p.name.name ≠ "service") ∧
      ∀ p ∈ d.params.dropLast, p.name.name ≠ "invocation" := by
  have names := map_name_ofMethod d
  have namesBefore : (ofMethod d).bindings.dropLast.map (·.name) = d.params.dropLast.map (·.name) := by
    rw [List.map_dropLast, names, List.map_dropLast]
  have arguments : ∀ i ∈ (ofMethod d).arguments,
      surroundings.binder? i = some .parameter ∨ ∃ b ∈ (ofMethod d).bindings, b.name.name = i.name := by
    intro i hi
    have bound : i ∈ (ofMethod d).bindings.map (·.name) := names ▸ hi
    obtain ⟨b, hb, rfl⟩ := List.mem_map.1 bound
    exact .inr ⟨b, hb, rfl⟩
  have own (name : Ident) (h : name ∈ [invocationName, codecName, serviceName]) :
      surroundings.binder? name = some .generator := by
    revert name
    decide
  simp only [snippet, Snippet.isHygienic_append, Snippet.isHygienic_plain, Snippet.isHygienic_use,
    isHygienic_bound arguments, own invocationName (by simp), own codecName (by simp), own serviceName (by simp),
    forall_mem_iff_of_map_eq names fun i => i.name ≠ "codec" ∧ i.name ≠ "service",
    forall_mem_iff_of_map_eq namesBefore fun i => i.name ≠ "invocation"]
  tauto

end InvokerArm

namespace InvokerDef

/-- what makes an invoker answer records, with its scopes -/
def snippet (i : InvokerDef) : Snippet :=
  let other : Ident := .plain "other"
  let method : Ident := .plain "method"
  let arms : Snippet :=
    .all (i.arms.map InvokerArm.snippet) ++
      .binding other .generator
        (.plain (["=", ">"] ++ pathWords ["core", "result", "Result", "Err"] ++ ["("] ++
            pathWords ["localrpc", "invoker", "unknown_method"] ++ ["(", quoted i.interfaceName, ","]) ++
          .use other .generator ++ .plain [")", ",", ")", ","])
  let choose : Snippet :=
    .letIn method .generator
      (.use InvokerArm.invocationName .generator ++ .plain [".", "method_name", "(", ")", ".", "to_owned", "(", ")"])
      (.plain ["match"] ++ .use method .generator ++ .plain [".", "as_str", "(", ")", "\x7b"] ++ arms ++ .plain ["\x7d"])
  let execute : Snippet :=
    .plain (pathWords ["localrpc", "invoker", "execute"] ++ ["("]) ++ .use InvokerArm.codecName .generator ++
      .plain [","] ++ .use InvokerArm.invocationName .generator ++ .plain [",", "|"] ++
      .binding InvokerArm.invocationName .generator (.plain ["|", "\x7b"] ++ choose ++ .plain ["\x7d"]) ++ .plain [")"]
  .plain ["fn", "invoke", "(", "&", "self", ","] ++
    .binding InvokerArm.invocationName .generator
      (.plain ([":"] ++ pathWords ["localrpc", "invocation", "Invocation"] ++ [",", ")", "-", ">"] ++
          pathWords ["localrpc", "invocation", "InvocationResult"] ++ ["\x7b"]) ++
        .letIn InvokerArm.codecName .generator (.plain ["&", "self", ".", "codec"])
          (.letIn InvokerArm.serviceName .generator (.plain ["&", "self", ".", "service"]) execute) ++
        .plain ["\x7d"])

/-- the templates around the arms in words -/
structure BodyTemplates : Prop where
  head : templateWords? "fn invoke(&self, invocation: ::localrpc::invocation::Invocation,)
        -> ::localrpc::invocation::InvocationResult" =
      some (["fn", "invoke", "(", "&", "self", ",", "invocation", ":"] ++
        pathWords ["localrpc", "invocation", "Invocation"] ++ [",", ")", "-", ">"] ++
        pathWords ["localrpc", "invocation", "InvocationResult"])
  own : templateWords? "let codec = &self.codec; let service = &self.service;" =
      some ["let", "codec", "=", "&", "self", ".", "codec", ";", "let", "service", "=", "&", "self", ".", "service", ";"]
  name : templateWords? "let method = invocation.method_name().to_owned();" =
      some ["let", "method", "=", "invocation", ".", "method_name", "(", ")", ".", "to_owned", "(", ")", ";"]
  choice : templateWords? "match method.as_str()" = some ["match", "method", ".", "as_str", "(", ")"]

theorem bodyTemplates : BodyTemplates := by
  constructor <;> decide +kernel

/-- the words of the snippet stand in the generated code -/
theorem snippet_infix (i : InvokerDef) : i.snippet.words <:+: Tokens.texts i.code := by
  have execute (choose : Tokens) : Tokens.texts (Declaration.code [("choose", choose)]
      "::localrpc::invoker::execute(codec, invocation, |invocation| $choose)") =
      pathWords ["localrpc", "invoker", "execute"] ++ ["(", "codec", ",", "invocation", ",", "|", "invocation", "|"] ++
        Tokens.texts choose ++ [")"] := by
    simp [texts_filled invokerTemplates.execute, fillWords, pathWords]
  have arms : (i.arms.map InvokerArm.snippet).flatMap Snippet.words =
      i.arms.flatMap fun a => Tokens.texts a.code := by
    rw [List.flatMap_map]
    exact List.flatMap_congr fun a _ => a.texts_code_eq.symm
  have function : i.snippet.words = Tokens.texts (withBody
      (plainCode "fn invoke(&self, invocation: ::localrpc::invocation::Invocation,)
        -> ::localrpc::invocation::InvocationResult") i.bodyCode) := by
    rw [texts_withBody, bodyCode, Tokens.texts_append, execute, texts_braced, Tokens.texts_append, texts_withBody,
      texts_armsCode]
    simp [plainCode, texts_filled bodyTemplates.head, texts_filled bodyTemplates.own, texts_filled bodyTemplates.name,
      texts_filled bodyTemplates.choice, fillWords, snippet, arms, braceWords, pathWords, InvokerArm.invocationName,
      InvokerArm.codecName, InvokerArm.serviceName]
  rw [code, invokeCode, Tokens.texts_append, texts_withBody _ (withBody _ _), ← function]
  exact List.infix_append_of_infix_right (List.infix_append_of_infix_right (infix_braceWords (List.infix_refl _)))

/-- an invoker keeps the names apart exactly when each of its arms does -/
theorem isHygienic_snippet (i : InvokerDef) :
    i.snippet.IsHygienic [] ↔ ∀ a ∈ i.arms, a.snippet.IsHygienic InvokerArm.surroundings := by
  simp [snippet, InvokerArm.surroundings, InvokerArm.invocationName, InvokerArm.codecName, InvokerArm.serviceName,
    Ident.plain]

end InvokerDef

/-! ## Services -/

/-- when the code that is generated for a method keeps its names apart: the snippets are that code, and the names of the
declared parameters decide -/
structure MethodDecl.KeptApart (m : MethodDecl) (d : MethodDef) : Prop where
  forwarded : Tokens.texts (ProxyMethod.ofMethod d).code = (ProxyMethod.ofMethod d).snippet.words
  answered : Tokens.texts (InvokerArm.ofMethod d).code = (InvokerArm.ofMethod d).snippet.words
  names : ∃ ps, Parameter.ofInputs? m.inputs = some ps ∧
    ((ProxyMethod.ofMethod d).snippet.IsHygienic [] ↔ ∀ p ∈ ps, p.name.name ≠ "call") ∧
    ((InvokerArm.ofMethod d).snippet.IsHygienic InvokerArm.surroundings ↔
      (∀ p ∈ ps, p.name.name ≠ "codec" ∧ p.name.name ≠ "service") ∧
        ∀ p ∈ ps.dropLast, p.name.name ≠ "invocation")

theorem MethodDef.keptApart {m : MethodDecl} {d : MethodDef} (h : ofDecl m = .ok d) : m.KeptApart d := by
  obtain ⟨ps, output, ok, err, declared, -, rfl⟩ := ofDecl_ok h
  refine ⟨ProxyMethod.texts_code_eq _, InvokerArm.texts_code_eq _, ps, declared, ?_, ?_⟩
  · rw [ProxyMethod.isHygienic_ofMethod, List.forall_mem_map]
    rfl
  · rw [InvokerArm.isHygienic_ofMethod, ← List.map_dropLast, List.forall_mem_map, List.forall_mem_map]
    rfl

/-- **Capture of names.** For every trait that declares a service, with any names of parameters at any places:
- a method of the proxy reads its own parameters, and all else that is meant, exactly when no parameter is called `call`;
- an arm of the invoker uses the record, the codec and the implementation throughout exactly when no parameter is called
  `codec` or `service`, and none but the last one `invocation`; the invoker does exactly when each of its arms does.
A name in front of which `r#` is written is the same name. -/
theorem captured_iff {t : TraitDecl} {arguments : List AttributeArgument} {s : ServiceDef}
    (accepted : ServiceDef.ofTrait t arguments = .ok s) :
    (∃ ms, t.items = ms.map TraitItem.method ∧ List.Forall₂ MethodDecl.KeptApart ms s.methods) ∧
      (∀ p, Proxy.ofService? s = some p →
        s.methods.flatMap (fun d => (ProxyMethod.ofMethod d).snippet.words) <:+: Tokens.texts p.code) ∧
      (InvokerDef.ofService s).snippet.words <:+: Tokens.texts (InvokerDef.ofService s).code ∧
      ((InvokerDef.ofService s).snippet.IsHygienic [] ↔
        ∀ d ∈ s.methods, (InvokerArm.ofMethod d).snippet.IsHygienic InvokerArm.surroundings) := by
  obtain ⟨-, ms, items, matched⟩ := ServiceDef.ofTrait_ok accepted
  refine ⟨⟨ms, items, matched.imp fun _ _ h => MethodDef.keptApart h⟩, ?_, InvokerDef.snippet_infix _, ?_⟩
  · intro p hp
    obtain ⟨constant, -, rfl⟩ := Option.map_eq_some_iff.mp hp
    simpa [List.flatMap_map, ProxyMethod.texts_code_eq] using
      Proxy.methods_infix ⟨s.suffixed "Proxy", s.visibility, s.name, constant, s.methods.map .ofMethod⟩
  · rw [InvokerDef.isHygienic_snippet, InvokerDef.ofService, List.forall_mem_map]

/-! ## A switchboard -/

namespace Switchboard

open Warehouse

/-- the last parameter may have the name of the record -/
def hold : MethodDecl :=
  method [] "hold" [([], "line", simple "u8"), ([], "invocation", applied "Option" [simple "u64"])] (simple "u32")

/-- parameters with the names of the call and of the implementation -/
def dial : MethodDecl :=
  method [] "dial" [([], "call", simple "u64"), ([], "service", simple "u8")] (simple "u32")

/-- the trait of a switchboard -/
def trait (methods : List MethodDecl) : TraitDecl :=
  { Warehouse.trait with name := .plain "Switchboard", items := methods.map .method }

end Switchboard

theorem captured_iff_hold : ∃ s, ServiceDef.ofTrait (Switchboard.trait [Switchboard.hold]) [] = .ok s ∧
    (∀ d ∈ s.methods, (ProxyMethod.ofMethod d).snippet.IsHygienic []) ∧
      (InvokerDef.ofService s).snippet.IsHygienic [] := by
  obtain ⟨s, accepted⟩ : ∃ s, ServiceDef.ofTrait (Switchboard.trait [Switchboard.hold]) [] = .ok s := ⟨_, rfl⟩
  obtain ⟨⟨ms, items, matched⟩, -, -, invoker⟩ := captured_iff accepted
  have only : ms = [Switchboard.hold] := by
    have injective : Function.Injective TraitItem.method := fun _ _ h => TraitItem.method.inj h
    exact (List.map_injective_iff.mpr injective items).symm
  subst only
  obtain ⟨d, rest, apart, none, single⟩ := List.forall₂_cons_left_iff.mp matched
  obtain rfl := List.forall₂_nil_left_iff.mp none
  obtain ⟨ps, declared, proxy, arm⟩ := apart.names
  cases declared
  refine ⟨s, accepted, ?_, ?_⟩
  · rw [single, List.forall_mem_singleton]
    exact proxy.2 (by decide)
  · rw [invoker, single, List.forall_mem_singleton]
    exact arm.2 (by decide)

/-- **Names that are captured.** A method with parameters `call` and `service` declares a service. The step of its proxy
that should append the parameter `call` reads the call itself, and its arm calls the parameter `service` in place of the
implementation. -/
theorem names_captured : ∃ s d, ServiceDef.ofTrait (Switchboard.trait [Switchboard.dial]) [] = .ok s ∧ d ∈ s.methods ∧
    ⟨.plain "call", .parameter, some .generator⟩ ∈ (ProxyMethod.ofMethod d).snippet.uses [] ∧
    ¬(ProxyMethod.ofMethod d).snippet.IsHygienic [] ∧
    ⟨.plain "service", .generator, some .parameter⟩ ∈ (InvokerDef.ofService s).snippet.uses [] ∧
    ¬(InvokerDef.ofService s).snippet.IsHygienic [] := by
  refine ⟨_, _, rfl, List.mem_cons_self, ?_, ?_, ?_, ?_⟩
  · decide
  · decide
  · decide
  · decide

end Loopback.Declaration
