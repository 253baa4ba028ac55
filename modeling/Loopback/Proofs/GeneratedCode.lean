/-
Generated code, word by word.

Every piece of generated code is a template with its holes filled. `texts_filled` gives the words of a filled template:
those of the template with the words of each hole in its place, so that the words of a piece are computed once here and
no proof reads a template again.
- `texts_filled`: the words of a filled template;
- `MethodDescriptor.texts_code`, `ProxyMethod.texts_code`, `InvokerArm.texts_code`: the words of what is generated for
  one method;
- `Descriptor.methods_infix`, `Proxy.methods_infix`, `InvokerDef.arms_infix`: where they stand in the generated code.
-/
import Loopback.Declaration.Expansion

namespace Loopback.Declaration

/-! ## Templates -/

mutual

/-- whether a tree holds no dollar sign but those that open a hole -/
def Tree.isTemplate : Tree → Bool
  | .ident i => i.text != "$"
  | .punct c _ => c != '$'
  | .literal t => t != "$"
  | .group _ content => Tokens.isTemplate content

/-- whether every dollar sign of a run opens a hole -/
def Tokens.isTemplate : List Tree → Bool
  | .punct '$' _ :: .ident i :: r => !i.raw && Tokens.isTemplate r
  | t :: r => t.isTemplate && Tokens.isTemplate r
  | [] => true

end

/-- the words of a text, if it is a template -/
def templateWords? (template : String) : Option (List String) :=
  (Tokens.ofText? template).bind fun ts => if Tokens.isTemplate ts then some (Tokens.texts ts) else none

/-- words with those of each hole in its place -/
def fillWords (holes : String → List String) : List String → List String
  | w :: n :: r => if w = "$" then holes n ++ fillWords holes r else w :: fillWords holes (n :: r)
  | [w] => [w]
  | [] => []

/-- the words that stand in a hole -/
def Holes.words (holes : Holes) (name : String) : List String :=
  Tokens.texts ((holes.lookup name).getD [])

@[simp] theorem Holes.words_cons (hole : String) (ts : Tokens) (holes : Holes) (name : String) :
    Holes.words ((hole, ts) :: holes) name = if name = hole then Tokens.texts ts else holes.words name := by
  unfold Holes.words
  rw [List.lookup_cons]
  split
  · next h => rw [if_pos (eq_of_beq h)]; rfl
  · next h => rw [if_neg (by simpa using h)]

theorem fillWords_cons {holes : String → List String} {w : String} (h : w ≠ "$") (ws : List String) :
    fillWords holes (w :: ws) = w :: fillWords holes ws := by
  cases ws <;> simp [fillWords, h]

theorem fillWords_hole (holes : String → List String) (n : String) (ws : List String) :
    fillWords holes ("$" :: n :: ws) = holes n ++ fillWords holes ws := by
  simp [fillWords]

theorem fillTree_leaf {t : Tree} (h : ∀ d content, t = .group d content → False) (holes : Holes) :
    fillTree holes t = t := by
  cases t with
  | group d content => exact (h d content rfl).elim
  | _ => rfl

/-- a leaf that opens no hole is a word that is kept -/
theorem fillWords_leaf {t : Tree} (h : ∀ d content, t = .group d content → False) (ht : t.isTemplate = true)
    (holes : String → List String) (ws : List String) :
    fillWords holes (t.texts ++ ws) = t.texts ++ fillWords holes ws := by
  cases t with
  | group d content => exact (h d content rfl).elim
  | ident i => exact fillWords_cons (by simpa [Tree.isTemplate] using ht) ws
  | literal w => exact fillWords_cons (by simpa [Tree.isTemplate] using ht) ws
  | punct c joint =>
    refine fillWords_cons (fun dollar => ?_) ws
    have same : [c] = ['$'] := by simpa [Char.toString] using congrArg String.toList dollar
    simp_all [Tree.isTemplate]

theorem fillWords_texts (holes : Holes) (ts : Tokens) (h : Tokens.isTemplate ts = true) (ws : List String) :
    fillWords holes.words (Tokens.texts ts ++ ws) = Tokens.texts (fill holes ts) ++ fillWords holes.words ws := by
  revert h ws
  refine fill.induct
    (fun t => t.isTemplate = true → ∀ ws,
      fillWords holes.words (t.texts ++ ws) = (fillTree holes t).texts ++ fillWords holes.words ws)
    (fun ts => Tokens.isTemplate ts = true → ∀ ws,
      fillWords holes.words (Tokens.texts ts ++ ws) = Tokens.texts (fill holes ts) ++ fillWords holes.words ws)
    ?group ?leaf ?hole ?cons ?nil ts
  case group =>
    intro d content ih h ws
    have opening : d.opening ≠ "$" := by cases d <;> decide
    have closing : d.closing ≠ "$" := by cases d <;> decide
    rw [Tree.isTemplate] at h
    simp only [Tree.texts, fillTree, List.cons_append, List.append_assoc, List.nil_append, fillWords_cons opening,
      ih h, fillWords_cons closing]
  case leaf =>
    intro t hleaf h ws
    rw [fillTree_leaf hleaf, fillWords_leaf hleaf h]
  case hole =>
    intro joint i r ih h ws
    simp only [Tokens.isTemplate, Bool.and_eq_true, Bool.not_eq_true'] at h
    have name : i.text = i.name := by simp [Ident.text, h.1]
    have dollar : '$'.toString = "$" := rfl
    simp only [Tokens.texts, Tree.texts, fill, Tokens.texts_append, List.cons_append, List.nil_append, dollar, name,
      fillWords_hole, ih h.2, Holes.words, List.append_assoc]
  case cons =>
    intro t r hne iht ihr h ws
    rw [Tokens.isTemplate.eq_2 _ _ hne, Bool.and_eq_true] at h
    simp only [Tokens.texts, fill.eq_2 _ _ _ hne, List.append_assoc, iht h.1, ihr h.2]
  case nil =>
    intro _ ws
    rfl

/-- the words of a filled template -/
theorem texts_filled {template : String} {ws : List String} (h : templateWords? template = some ws) (holes : Holes) :
    Tokens.texts (code holes template) = fillWords holes.words ws := by
  obtain ⟨ts, read, sound⟩ := Option.bind_eq_some_iff.mp h
  split at sound
  · next template =>
    have filled := fillWords_texts holes ts template []
    rw [code, read, Option.getD_some, ← Option.some.inj sound]
    simpa [fillWords] using filled.symm
  · cases sound

/-! ## Words -/

/-- the words of a type -/
def TypeExpr.words (t : TypeExpr) : List String :=
  Tokens.texts t.tokens

/-- a text as a string literal -/
def quoted (s : String) : String :=
  String.ofList ('"' :: literalChars s.toList ++ ['"'])

def truthWord (b : Bool) : String :=
  if b then "true" else "false"

/-- the index of an argument as a literal -/
def indexWord (i : Nat) : String :=
  toString i ++ "usize"

/-- a global path -/
def pathWords (segments : List String) : List String :=
  segments.flatMap fun s => [":", ":", s]

/-- words in braces -/
def braceWords (ws : List String) : List String :=
  ["\x7b"] ++ ws ++ ["\x7d"]

theorem infix_braceWords {a b : List String} (h : a <:+: b) : a <:+: braceWords b :=
  List.infix_append_of_infix_left (List.infix_append_of_infix_right h)

/-- lists of words with a comma between any two -/
def commaWords (l : List (List String)) : List String :=
  [","].intercalate l

/-- the call of a generic method -/
def callWords (receiver method : String) (generics arguments : List String) : List String :=
  [receiver, ".", method, ":", ":", "<"] ++ generics ++ [">", "("] ++ arguments ++ [")"]

@[simp] theorem Ident.text_plain (name : String) : (Ident.plain name).text = name := rfl

@[simp] theorem texts_nil : Tokens.texts [] = [] := rfl

@[simp] theorem texts_ident (i : Ident) (ts : Tokens) : Tokens.texts (.ident i :: ts) = i.text :: Tokens.texts ts := rfl

@[simp] theorem texts_literal (t : String) (ts : Tokens) : Tokens.texts (.literal t :: ts) = t :: Tokens.texts ts := rfl

@[simp] theorem texts_stringLiteral (s : String) (ts : Tokens) :
    Tokens.texts (stringLiteral s :: ts) = quoted s :: Tokens.texts ts := rfl

@[simp] theorem texts_punct (c : Char) (joint : Bool) (ts : Tokens) :
    Tokens.texts (.punct c joint :: ts) = c.toString :: Tokens.texts ts := rfl

@[simp] theorem texts_sign (c : Char) (ts : Tokens) : Tokens.texts (sign c :: ts) = c.toString :: Tokens.texts ts := rfl

@[simp] theorem texts_truth (b : Bool) : Tokens.texts (truth b) = [truthWord b] := by
  cases b <;> rfl

@[simp] theorem texts_braced (ts : Tokens) : Tokens.texts [braced ts] = braceWords (Tokens.texts ts) := by
  simp [braced, Tokens.texts, Tree.texts, Delimiter.opening, Delimiter.closing, braceWords]

@[simp] theorem texts_withBody (head body : Tokens) :
    Tokens.texts (withBody head body) = Tokens.texts head ++ braceWords (Tokens.texts body) := by
  rw [withBody, Tokens.texts_append, texts_braced]

@[simp] theorem texts_listed (l : List Tokens) :
    Tokens.texts (listed l) = commaWords (l.map Tokens.texts) := by
  unfold listed commaWords
  induction l with
  | nil => rfl
  | cons a r ih =>
    cases r with
    | nil => simp [commaSeparated]
    | cons b r =>
      simp only [commaSeparated, Tokens.texts_append, ih, List.map_cons, List.intercalate_cons_cons]
      rfl

@[simp] theorem texts_flatMap {α : Type} (l : List α) (f : α → Tokens) :
    Tokens.texts (l.flatMap f) = l.flatMap fun a => Tokens.texts (f a) := by
  induction l with
  | nil => rfl
  | cons a r ih => simp [ih]

/-! ## Descriptors -/

/-- the templates of a descriptor in words -/
structure DescriptorTemplates : Prop where
  parameterHead : templateWords? "::localrpc::proxy::ParameterDescriptor" =
      some (pathWords ["localrpc", "proxy", "ParameterDescriptor"])
  parameterBody : templateWords? "name: $name, bypass: $bypass, optional: $optional," =
      some ["name", ":", "$", "name", ",", "bypass", ":", "$", "bypass", ",", "optional", ":", "$", "optional", ","]
  methodHead : templateWords? "::localrpc::proxy::MethodDescriptor" =
      some (pathWords ["localrpc", "proxy", "MethodDescriptor"])
  methodBody : templateWords? "name: $name, parameters: &[$parameters], result_bypass: $bypass," =
      some ["name", ":", "$", "name", ",", "parameters", ":", "&", "[", "$", "parameters", "]", ",", "result_bypass",
        ":", "$", "bypass", ","]
  body : templateWords? "name: $name, methods: &[$methods]," =
      some ["name", ":", "$", "name", ",", "methods", ":", "&", "[", "$", "methods", "]", ","]

theorem descriptorTemplates : DescriptorTemplates := by
  constructor <;> decide +kernel

theorem ParameterDescriptor.texts_code (p : ParameterDescriptor) :
    Tokens.texts p.code = pathWords ["localrpc", "proxy", "ParameterDescriptor"] ++
      braceWords ["name", ":", quoted p.name, ",", "bypass", ":", truthWord p.bypass, ",", "optional", ":",
        truthWord p.optional, ","] := by
  simp [code, plainCode, texts_filled descriptorTemplates.parameterHead,
    texts_filled descriptorTemplates.parameterBody, fillWords, pathWords]

theorem MethodDescriptor.texts_code (m : MethodDescriptor) :
    Tokens.texts m.code = pathWords ["localrpc", "proxy", "MethodDescriptor"] ++
      braceWords (["name", ":", quoted m.name, ",", "parameters", ":", "&", "["] ++
        commaWords (m.parameters.map fun p => Tokens.texts p.code) ++
        ["]", ",", "result_bypass", ":", truthWord m.resultBypass, ","]) := by
  simp [code, plainCode, texts_filled descriptorTemplates.methodHead, texts_filled descriptorTemplates.methodBody,
    fillWords, pathWords, Function.comp_def]

theorem Descriptor.methods_infix (d : Descriptor) :
    commaWords (d.methods.map fun m => Tokens.texts m.code) <:+: Tokens.texts d.code := by
  have words : Tokens.texts (Declaration.code
      [("name", [stringLiteral d.interfaceName]), ("methods", listed (d.methods.map MethodDescriptor.code))]
      "name: $name, methods: &[$methods],") =
      ["name", ":", quoted d.interfaceName, ",", "methods", ":", "&", "["] ++
        commaWords (d.methods.map fun m => Tokens.texts m.code) ++ ["]", ","] := by
    simp [texts_filled descriptorTemplates.body, fillWords, Function.comp_def]
  have inBody := infix_braceWords (List.infix_append
    ["name", ":", quoted d.interfaceName, ",", "methods", ":", "&", "["]
    (commaWords (d.methods.map fun m => Tokens.texts m.code)) ["]", ","])
  rw [code, Tokens.texts_append, Tokens.texts_append, texts_withBody, words]
  exact List.infix_append_of_infix_left (List.infix_append_of_infix_right (List.infix_append_of_infix_right inBody))

/-! ## Proxies -/

/-- the templates of a proxy in words -/
structure ProxyTemplates : Prop where
  optionalSource : templateWords? "$source.as_ref()" = some ["$", "source", ".", "as_ref", "(", ")"]
  step : templateWords? "$call.$operation::<$type>($argument)" =
      some ["$", "call", ".", "$", "operation", ":", ":", "<", "$", "type", ">", "(", "$", "argument", ")"]
  dispatch : templateWords? "self.dispatcher.call($name)" =
      some ["self", ".", "dispatcher", ".", "call", "(", "$", "name", ")"]
  append : templateWords? ".and_then(|$call| $step)" =
      some [".", "and_then", "(", "|", "$", "call", "|", "$", "step", ")"]
  completion : templateWords? "match $call" = some ["match", "$", "call"]
  made : templateWords? "::core::result::Result::Ok($call) => $call.$complete::<$ok, $err>()," =
      some (pathWords ["core", "result", "Result", "Ok"] ++ ["(", "$", "call", ")", "=", ">", "$", "call", ".", "$",
        "complete", ":", ":", "<", "$", "ok", ",", "$", "err", ">", "(", ")", ","])
  failed : templateWords? "::core::result::Result::Err(error) => ::core::result::Result::Err(
          <$err as ::core::convert::From<::localrpc::InvocationError>>::from(error),
        )," =
      some (pathWords ["core", "result", "Result", "Err"] ++ ["(", "error", ")", "=", ">"] ++
        pathWords ["core", "result", "Result", "Err"] ++ ["(", "<", "$", "err", "as"] ++
        pathWords ["core", "convert", "From"] ++ ["<"] ++ pathWords ["localrpc", "InvocationError"] ++
        [">", ">", ":", ":", "from", "(", "error", ")", ",", ")", ","])
  head : templateWords? "fn $name(&self, $params) $output" =
      some ["fn", "$", "name", "(", "&", "self", ",", "$", "params", ")", "$", "output"]
  bind : templateWords? "let $call = $value;" = some ["let", "$", "call", "=", "$", "value", ";"]

theorem proxyTemplates : ProxyTemplates := by
  constructor <;> decide +kernel

namespace MarshalStep

theorem texts_argumentCode (m : MarshalStep) : Tokens.texts m.argumentCode =
    match m.operation with
    | .argument => ["&", m.source.text]
    | .optionalArgument => [m.source.text, ".", "as_ref", "(", ")"]
    | .bypassArgument => [m.source.text]
    | .optionalBypassArgument => [m.source.text] := by
  unfold argumentCode
  cases m.operation with
  | optionalArgument => simp [texts_filled proxyTemplates.optionalSource, fillWords]
  | _ => rfl

theorem texts_code (m : MarshalStep) :
    Tokens.texts m.code = callWords "call" m.operation.name.text m.type.words (Tokens.texts m.argumentCode) := by
  simp [code, texts_filled proxyTemplates.step, fillWords, callWords, TypeExpr.words, ProxyMethod.callName]

end MarshalStep

namespace ProxyMethod

theorem texts_callCode (m : ProxyMethod) :
    Tokens.texts m.callCode = ["self", ".", "dispatcher", ".", "call", "(", quoted m.methodName, ")"] ++
      m.steps.flatMap fun s => [".", "and_then", "(", "|", "call", "|"] ++ Tokens.texts s.code ++ [")"] := by
  simp [callCode, texts_filled proxyTemplates.dispatch, texts_filled proxyTemplates.append, fillWords, callName]

theorem texts_completionCode (m : ProxyMethod) :
    Tokens.texts m.completionCode = ["match", "call"] ++ braceWords
      (pathWords ["core", "result", "Result", "Ok"] ++ ["(", "call", ")", "=", ">"] ++
        callWords "call" m.completion.name.text (m.okType.words ++ [","] ++ m.errType.words) [] ++ [","] ++
        pathWords ["core", "result", "Result", "Err"] ++ ["(", "error", ")", "=", ">"] ++
        pathWords ["core", "result", "Result", "Err"] ++ ["(", "<"] ++ m.errType.words ++ ["as"] ++
        pathWords ["core", "convert", "From"] ++ ["<"] ++ pathWords ["localrpc", "InvocationError"] ++
        [">", ">", ":", ":", "from", "(", "error", ")", ",", ")", ","]) := by
  simp [completionCode, texts_filled proxyTemplates.completion, texts_filled proxyTemplates.made,
    texts_filled proxyTemplates.failed, fillWords, callName, callWords, pathWords, TypeExpr.words]

theorem texts_code (m : ProxyMethod) :
    Tokens.texts m.code = ["fn", m.name.text, "(", "&", "self", ","] ++
      commaWords (m.params.map fun p => [p.1.text, ":"] ++ p.2.words) ++ [")", "-", ">"] ++ m.output.words ++
      braceWords (["let", "call", "="] ++ Tokens.texts m.callCode ++ [";"] ++ Tokens.texts m.completionCode) := by
  simp [code, texts_filled proxyTemplates.head, texts_filled proxyTemplates.bind, fillWords, callName, outputTokens,
    Function.comp_def, TypeExpr.words]

end ProxyMethod

theorem Proxy.methods_infix (p : Proxy) :
    p.methods.flatMap (fun m => Tokens.texts m.code) <:+: Tokens.texts p.code := by
  have inBody := infix_braceWords (List.infix_refl (Tokens.texts (p.methods.flatMap ProxyMethod.code)))
  rw [← texts_flatMap, code, Tokens.texts_append, Tokens.texts_append, texts_withBody]
  exact List.infix_append_of_infix_left (List.infix_append_of_infix_right (List.infix_append_of_infix_right inBody))

/-! ## Invokers -/

/-- the templates of an invoker in words -/
structure InvokerTemplates : Prop where
  argument : templateWords? "$invocation.argument::<$type, C>($index, $codec)?" =
      some ["$", "invocation", ".", "argument", ":", ":", "<", "$", "type", ",", "C", ">", "(", "$", "index", ",", "$",
        "codec", ")", "?"]
  optionalArgument : templateWords? "$invocation.optional_argument::<$type, C>($index, $codec)?" =
      some ["$", "invocation", ".", "optional_argument", ":", ":", "<", "$", "type", ",", "C", ">", "(", "$", "index",
        ",", "$", "codec", ")", "?"]
  takeBypass : templateWords? "$invocation.take_bypass::<$type>($index)?" =
      some ["$", "invocation", ".", "take_bypass", ":", ":", "<", "$", "type", ">", "(", "$", "index", ")", "?"]
  takeOptionalBypass : templateWords? "$invocation.take_optional_bypass::<$type>($index)?" =
      some ["$", "invocation", ".", "take_optional_bypass", ":", ":", "<", "$", "type", ">", "(", "$", "index", ")",
        "?"]
  bind : templateWords? "let $name = $value;" = some ["let", "$", "name", "=", "$", "value", ";"]
  value : templateWords? "::localrpc::invoker::encode_value" =
      some (pathWords ["localrpc", "invoker", "encode_value"])
  bypass : templateWords? "::localrpc::invoker::encode_bypass" =
      some (pathWords ["localrpc", "invoker", "encode_bypass"])
  typeName : templateWords? "::std::any::type_name::<$type>()" =
      some (pathWords ["std", "any", "type_name"] ++ [":", ":", "<", "$", "type", ">", "(", ")"])
  check : templateWords? "$invocation.expect_signature(&[$types], $bypass,)?;" =
      some ["$", "invocation", ".", "expect_signature", "(", "&", "[", "$", "types", "]", ",", "$", "bypass", ",", ")",
        "?", ";"]
  call : templateWords? "$encode($codec, $service.$callee($arguments))" =
      some ["$", "encode", "(", "$", "codec", ",", "$", "service", ".", "$", "callee", "(", "$", "arguments", ")",
        ")"]
  head : templateWords? "$name =>" = some ["$", "name", "=", ">"]
  other : templateWords?
      "other => ::core::result::Result::Err(::localrpc::invoker::unknown_method($interface, other),)," =
      some (["other", "=", ">"] ++ pathWords ["core", "result", "Result", "Err"] ++ ["("] ++
        pathWords ["localrpc", "invoker", "unknown_method"] ++
        ["(", "$", "interface", ",", "other", ")", ",", ")", ","])
  execute : templateWords? "::localrpc::invoker::execute(codec, invocation, |invocation| $choose)" =
      some (pathWords ["localrpc", "invoker", "execute"] ++ ["(", "codec", ",", "invocation", ",", "|", "invocation",
        "|", "$", "choose", ")"])

theorem invokerTemplates : InvokerTemplates := by
  constructor <;> decide +kernel

namespace ArgumentBinding

theorem texts_valueCode (b : ArgumentBinding) : Tokens.texts b.valueCode =
    (match b.accessor with
    | .argument => callWords "invocation" "argument" (b.type.words ++ [",", "C"]) [indexWord b.index, ",", "codec"]
    | .optionalArgument =>
      callWords "invocation" "optional_argument" (b.type.words ++ [",", "C"]) [indexWord b.index, ",", "codec"]
    | .takeBypass => callWords "invocation" "take_bypass" b.type.words [indexWord b.index]
    | .takeOptionalBypass => callWords "invocation" "take_optional_bypass" b.type.words [indexWord b.index]) ++
      ["?"] := by
  unfold valueCode
  cases b.accessor <;>
    simp [texts_filled invokerTemplates.argument, texts_filled invokerTemplates.optionalArgument,
      texts_filled invokerTemplates.takeBypass, texts_filled invokerTemplates.takeOptionalBypass, fillWords,
      InvokerArm.nameHoles, InvokerArm.invocationName, InvokerArm.codecName, callWords, indexWord, TypeExpr.words]

theorem texts_code (b : ArgumentBinding) :
    Tokens.texts b.code = ["let", b.name.text, "="] ++ Tokens.texts b.valueCode ++ [";"] := by
  simp [code, texts_filled invokerTemplates.bind, fillWords]

end ArgumentBinding

theorem ResultEncoding.texts_code (e : ResultEncoding) : Tokens.texts e.code =
    pathWords ["localrpc", "invoker", match e with | .value => "encode_value" | .bypass => "encode_bypass"] := by
  cases e <;>
    simp [code, plainCode, texts_filled invokerTemplates.value, texts_filled invokerTemplates.bypass, fillWords,
      pathWords]

namespace InvokerArm

theorem texts_checkCode (a : InvokerArm) :
    Tokens.texts a.checkCode = ["invocation", ".", "expect_signature", "(", "&", "["] ++
      commaWords (a.expected.map fun t =>
        pathWords ["std", "any", "type_name"] ++ [":", ":", "<"] ++ t.words ++ [">", "(", ")"]) ++
      ["]", ",", truthWord a.expectedBypass, ",", ")", "?", ";"] := by
  simp [checkCode, texts_filled invokerTemplates.typeName, texts_filled invokerTemplates.check, fillWords, nameHoles,
    invocationName, pathWords, Function.comp_def, TypeExpr.words]

theorem texts_callCode (a : InvokerArm) :
    Tokens.texts a.callCode = Tokens.texts a.encoding.code ++ ["(", "codec", ",", "service", ".", a.callee.text, "("] ++
      commaWords (a.arguments.map fun i => [i.text]) ++ [")", ")"] := by
  simp [callCode, texts_filled invokerTemplates.call, fillWords, nameHoles, codecName, serviceName, Function.comp_def]

theorem texts_code (a : InvokerArm) :
    Tokens.texts a.code = [quoted a.methodName, "=", ">"] ++ braceWords
      (Tokens.texts a.checkCode ++ a.bindings.flatMap (fun b => Tokens.texts b.code) ++ Tokens.texts a.callCode) := by
  simp [code, texts_filled invokerTemplates.head, fillWords]

end InvokerArm

theorem InvokerDef.texts_armsCode (i : InvokerDef) :
    Tokens.texts i.armsCode = i.arms.flatMap (fun a => Tokens.texts a.code) ++ ["other", "=", ">"] ++
      pathWords ["core", "result", "Result", "Err"] ++ ["("] ++ pathWords ["localrpc", "invoker", "unknown_method"] ++
      ["(", quoted i.interfaceName, ",", "other", ")", ",", ")", ","] := by
  simp [armsCode, texts_filled invokerTemplates.other, fillWords, pathWords]

theorem InvokerDef.arms_infix (i : InvokerDef) : Tokens.texts i.armsCode <:+: Tokens.texts i.code := by
  have filled (choose : Tokens) : Tokens.texts (Declaration.code [("choose", choose)]
      "::localrpc::invoker::execute(codec, invocation, |invocation| $choose)") =
      pathWords ["localrpc", "invoker", "execute"] ++ ["(", "codec", ",", "invocation", ",", "|", "invocation", "|"] ++
        Tokens.texts choose ++ [")"] := by
    simp [texts_filled invokerTemplates.execute, fillWords, pathWords]
  have inMatch := infix_braceWords (List.infix_refl (Tokens.texts i.armsCode))
  have inBody : Tokens.texts i.armsCode <:+: Tokens.texts i.bodyCode := by
    rw [bodyCode, Tokens.texts_append, filled, texts_braced, Tokens.texts_append, texts_withBody]
    exact List.infix_append_of_infix_right (List.infix_append_of_infix_left (List.infix_append_of_infix_right
      (infix_braceWords (List.infix_append_of_infix_right (List.infix_append_of_infix_right inMatch)))))
  rw [code, invokeCode, Tokens.texts_append, texts_withBody, texts_withBody]
  exact List.infix_append_of_infix_right (List.infix_append_of_infix_right
    (infix_braceWords (List.infix_append_of_infix_right (infix_braceWords inBody))))

end Loopback.Declaration
