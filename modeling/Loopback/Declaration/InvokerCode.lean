/-
Generated invokers.

An invoker has an arm for each method. An arm checks the record against the signature, binds the arguments in order,
each by the accessor that fits the way it is passed, calls the implementation and encodes its result. `InvokerArm` is
that arm in parts; `code` writes it.
-/
import Loopback.Declaration.Descriptor

namespace Loopback.Declaration

/-! ## Invokers in parts -/

/-- the accessor of a record that gives an argument -/
inductive Accessor where
  | argument
  | optionalArgument
  | takeBypass
  | takeOptionalBypass
deriving DecidableEq, Repr

/-- a name bound to an argument of the record -/
structure ArgumentBinding where
  name : Ident
  accessor : Accessor
  type : TypeExpr
  index : Nat
deriving Repr

/-- how a result is encoded -/
inductive ResultEncoding where
  | value
  | bypass
deriving DecidableEq, Repr

/-- the arm of an invoker for one method -/
structure InvokerArm where
  /-- the name that a record asks for the method by -/
  methodName : String
  /-- the types that the record must announce -/
  expected : List TypeExpr
  /-- whether the record must ask for its result by reference -/
  expectedBypass : Bool
  bindings : List ArgumentBinding
  encoding : ResultEncoding
  /-- the method of the implementation -/
  callee : Ident
  arguments : List Ident
deriving Repr

/-- an invoker; a record that asks for a method of no arm is refused -/
structure InvokerDef where
  name : Ident
  visibility : Tokens
  service : Ident
  interfaceName : String
  arms : List InvokerArm
deriving Repr

def ArgumentBinding.ofParam (index : Nat) (p : ParamDef) : ArgumentBinding :=
  match p.optional, p.bypass with
  | none, false => ⟨p.name, .argument, p.type, index⟩
  | some inner, false => ⟨p.name, .optionalArgument, inner, index⟩
  | none, true => ⟨p.name, .takeBypass, p.type, index⟩
  | some inner, true => ⟨p.name, .takeOptionalBypass, inner, index⟩

def ResultEncoding.ofMethod (m : MethodDef) : ResultEncoding :=
  if m.resultBypass then .bypass else .value

def InvokerArm.ofMethod (m : MethodDef) : InvokerArm where
  methodName := m.name.text
  expected := m.params.map (·.type)
  expectedBypass := m.resultBypass
  bindings := m.params.mapIdx .ofParam
  encoding := .ofMethod m
  callee := m.name
  arguments := m.params.map (·.name)

def InvokerDef.ofService (s : ServiceDef) : InvokerDef :=
  ⟨s.suffixed "Invoker", s.visibility, s.name, s.interfaceName, s.methods.map .ofMethod⟩

/-! ## Names that an arm uses -/

namespace InvokerArm

/-- the record -/
def invocationName : Ident :=
  .plain "invocation"

def codecName : Ident :=
  .plain "codec"

/-- the implementation -/
def serviceName : Ident :=
  .plain "service"

/-- what stands for the names that an arm uses -/
def nameHoles : Holes :=
  [("invocation", [.ident invocationName]), ("codec", [.ident codecName]), ("service", [.ident serviceName])]

end InvokerArm

/-! ## Code -/

namespace ArgumentBinding

/-- the expression that gives the argument -/
def valueCode (b : ArgumentBinding) : Tokens :=
  let holes : Holes :=
    InvokerArm.nameHoles ++ [("type", b.type.tokens), ("index", [.literal (toString b.index ++ "usize")])]
  match b.accessor with
  | .argument => code holes "$invocation.argument::<$type, C>($index, $codec)?"
  | .optionalArgument => code holes "$invocation.optional_argument::<$type, C>($index, $codec)?"
  | .takeBypass => code holes "$invocation.take_bypass::<$type>($index)?"
  | .takeOptionalBypass => code holes "$invocation.take_optional_bypass::<$type>($index)?"

def code (b : ArgumentBinding) : Tokens :=
  Declaration.code [("name", [.ident b.name]), ("value", b.valueCode)] "let $name = $value;"

end ArgumentBinding

def ResultEncoding.code : ResultEncoding → Tokens
  | value => plainCode "::localrpc::invoker::encode_value"
  | bypass => plainCode "::localrpc::invoker::encode_bypass"

namespace InvokerArm

/-- the check of the record -/
def checkCode (a : InvokerArm) : Tokens :=
  let types := a.expected.map fun t => code [("type", t.tokens)] "::std::any::type_name::<$type>()"
  code (nameHoles ++ [("types", listed types), ("bypass", truth a.expectedBypass)])
    "$invocation.expect_signature(&[$types], $bypass,)?;"

/-- the call of the implementation, encoded -/
def callCode (a : InvokerArm) : Tokens :=
  code
    (nameHoles ++
      [("encode", a.encoding.code), ("callee", [.ident a.callee]),
        ("arguments", listed (a.arguments.map fun i => [.ident i]))])
    "$encode($codec, $service.$callee($arguments))"

def code (a : InvokerArm) : Tokens :=
  withBody (Declaration.code [("name", [stringLiteral a.methodName])] "$name =>")
    (a.checkCode ++ a.bindings.flatMap ArgumentBinding.code ++ a.callCode)

end InvokerArm

namespace InvokerDef

/-- the type of an invoker, with its documentation -/
def typeCode (i : InvokerDef) : Tokens :=
  documentedService "Invoker for implementations of the" i.service ++
    plainCode "#[doc = \"\"]
      #[doc = \"Register it in a deployment block to make the implementation callable\"]
      #[doc = \"through proxies.\"]" ++
    withBody
      (Declaration.code [("vis", i.visibility), ("invoker", [.ident i.name])]
        "$vis struct $invoker<T: ?Sized, C: ::localrpc::codec::Codec = ::localrpc::codec::PostcardCodec>")
      (plainCode "service: ::std::sync::Arc<T>, codec: C,")

/-- the operations that every invoker has -/
def operationsCode (i : InvokerDef) : Tokens :=
  let holes : Holes := [("invoker", [.ident i.name])]
  withBody (Declaration.code holes "impl<T: ?Sized> $invoker<T, ::localrpc::codec::PostcardCodec>")
      (documented " Create an invoker using the default codec." ++
        withBody (plainCode "pub fn new(service: ::std::sync::Arc<T>) -> Self")
          (withBody (plainCode "Self") (plainCode "service, codec: ::localrpc::codec::PostcardCodec::default(),"))) ++
    withBody (Declaration.code holes "impl<T: ?Sized, C: ::localrpc::codec::Codec> $invoker<T, C>")
      (documented " Create an invoker using `codec`." ++
        withBody (plainCode "pub fn with_codec(service: ::std::sync::Arc<T>, codec: C) -> Self")
          (withBody (plainCode "Self") (plainCode "service, codec")) ++
        documented " Return the service implementation." ++
        withBody (plainCode "pub fn service(&self) -> &::std::sync::Arc<T>") (plainCode "&self.service")) ++
    withBody
      (Declaration.code holes
        "impl<T: ?Sized, C: ::localrpc::codec::Codec> ::core::clone::Clone for $invoker<T, C>")
      (withBody (plainCode "fn clone(&self) -> Self")
        (withBody (plainCode "Self")
          (plainCode "service: ::std::sync::Arc::clone(&self.service), codec: self.codec.clone(),")))

/-- the arms, and after them the one that refuses all other names -/
def armsCode (i : InvokerDef) : Tokens :=
  i.arms.flatMap InvokerArm.code ++
    Declaration.code [("interface", [stringLiteral i.interfaceName])]
      "other => ::core::result::Result::Err(::localrpc::invoker::unknown_method($interface, other),),"

/-- the choice of an arm by the name that the record asks for -/
def bodyCode (i : InvokerDef) : Tokens :=
  let choose :=
    braced (plainCode "let method = invocation.method_name().to_owned();" ++
      withBody (plainCode "match method.as_str()") i.armsCode)
  plainCode "let codec = &self.codec; let service = &self.service;" ++
    Declaration.code [("choose", [choose])]
      "::localrpc::invoker::execute(codec, invocation, |invocation| $choose)"

/-- what makes an invoker answer records -/
def invokeCode (i : InvokerDef) : Tokens :=
  let holes : Holes := [("invoker", [.ident i.name]), ("service", [.ident i.service])]
  withBody
    (Declaration.code holes
      "impl<T, C> ::localrpc::invoker::Invoker for $invoker<T, C>
        where T: $service + ?Sized + Send + Sync + 'static, C: ::localrpc::codec::Codec,")
    (withBody
      (plainCode "fn invoke(&self, invocation: ::localrpc::invocation::Invocation,)
        -> ::localrpc::invocation::InvocationResult")
      i.bodyCode)

def code (i : InvokerDef) : Tokens :=
  i.typeCode ++ i.operationsCode ++ i.invokeCode

end InvokerDef

end Loopback.Declaration
