/-
Generated proxies.

A proxy method resolves its target, marshals its arguments in order, each by the operation of the call that fits the way
it is passed, and completes the call. `ProxyMethod` is that method in parts; `code` writes it.
-/
import Loopback.Declaration.Descriptor

namespace Loopback.Declaration

/-! ## Proxies in parts -/

/-- the operation of a call that appends an argument -/
inductive CallOperation where
  | argument
  | optionalArgument
  | bypassArgument
  | optionalBypassArgument
deriving DecidableEq, Repr

/-- a step that appends an argument to a call -/
structure MarshalStep where
  operation : CallOperation
  type : TypeExpr
  /-- the name that the argument is read from -/
  source : Ident
deriving Repr

/-- the operation that completes a call -/
inductive Completion where
  | invoke
  | invokeBypass
deriving DecidableEq, Repr

/-- a method of a proxy -/
structure ProxyMethod where
  name : Ident
  /-- the name that the call is dispatched by -/
  methodName : String
  params : List (Ident × TypeExpr)
  output : TypeExpr
  steps : List MarshalStep
  completion : Completion
  okType : TypeExpr
  errType : TypeExpr
deriving Repr

/-- a proxy -/
structure Proxy where
  name : Ident
  visibility : Tokens
  service : Ident
  descriptor : Ident
  methods : List ProxyMethod
deriving Repr

def MarshalStep.ofParam (p : ParamDef) : MarshalStep :=
  match p.optional, p.bypass with
  | none, false => ⟨.argument, p.type, p.name⟩
  | some inner, false => ⟨.optionalArgument, inner, p.name⟩
  | none, true => ⟨.bypassArgument, p.type, p.name⟩
  | some inner, true => ⟨.optionalBypassArgument, inner, p.name⟩

def Completion.ofMethod (m : MethodDef) : Completion :=
  if m.resultBypass then .invokeBypass else .invoke

def ProxyMethod.ofMethod (m : MethodDef) : ProxyMethod where
  name := m.name
  methodName := m.name.text
  params := m.params.map fun p => (p.name, p.type)
  output := m.output
  steps := m.params.map .ofParam
  completion := .ofMethod m
  okType := m.okType
  errType := m.errType

/-- the proxy of a service, if its descriptor has a name -/
def Proxy.ofService? (s : ServiceDef) : Option Proxy :=
  s.descriptorName?.map fun descriptor =>
    ⟨s.suffixed "Proxy", s.visibility, s.name, descriptor, s.methods.map .ofMethod⟩

/-! ## Names that a proxy method binds -/

/-- the name of the call, which each step binds around its argument -/
def ProxyMethod.callName : Ident :=
  .plain "call"

/-! ## Code -/

def CallOperation.name : CallOperation → Ident
  | argument => .plain "argument"
  | optionalArgument => .plain "optional_argument"
  | bypassArgument => .plain "bypass_argument"
  | optionalBypassArgument => .plain "optional_bypass_argument"

namespace MarshalStep

/-- how the argument of a step is read from its name -/
def argumentCode (m : MarshalStep) : Tokens :=
  match m.operation with
  | .argument => [sign '&', .ident m.source]
  | .optionalArgument => code [("source", [.ident m.source])] "$source.as_ref()"
  | .bypassArgument => [.ident m.source]
  | .optionalBypassArgument => [.ident m.source]

/-- the expression that appends an argument to the call -/
def code (m : MarshalStep) : Tokens :=
  Declaration.code
    [("call", [.ident ProxyMethod.callName]), ("operation", [.ident m.operation.name]), ("type", m.type.tokens),
      ("argument", m.argumentCode)]
    "$call.$operation::<$type>($argument)"

end MarshalStep

def Completion.name : Completion → Ident
  | invoke => .plain "invoke"
  | invokeBypass => .plain "invoke_bypass"

namespace ProxyMethod

/-- the expression that dispatches a call and appends its arguments -/
def callCode (m : ProxyMethod) : Tokens :=
  code [("name", [stringLiteral m.methodName])] "self.dispatcher.call($name)" ++
    m.steps.flatMap fun s =>
      code [("call", [.ident callName]), ("step", s.code)] ".and_then(|$call| $step)"

/-- the expression that completes the call, or gives the failure that kept it from being made -/
def completionCode (m : ProxyMethod) : Tokens :=
  let holes : Holes :=
    [("call", [.ident callName]), ("complete", [.ident m.completion.name]), ("ok", m.okType.tokens),
      ("err", m.errType.tokens)]
  withBody (code holes "match $call")
    (code holes "::core::result::Result::Ok($call) => $call.$complete::<$ok, $err>()," ++
      code holes
        "::core::result::Result::Err(error) => ::core::result::Result::Err(
          <$err as ::core::convert::From<::localrpc::InvocationError>>::from(error),
        ),")

def code (m : ProxyMethod) : Tokens :=
  let params := m.params.map fun (name, type) => [Tree.ident name, sign ':'] ++ type.tokens
  withBody
    (Declaration.code
      [("name", [.ident m.name]), ("params", listed params), ("output", outputTokens (some m.output))]
      "fn $name(&self, $params) $output")
    (Declaration.code [("call", [.ident callName]), ("value", m.callCode)] "let $call = $value;" ++ m.completionCode)

end ProxyMethod

namespace Proxy

/-- the operations that every proxy has -/
def operationsCode : Tokens :=
  documented " Create a proxy that calls through `dispatcher`." ++
    withBody (plainCode "pub fn new(dispatcher: ::localrpc::dispatcher::Dispatcher<C>) -> Self")
      (withBody (plainCode "Self") (plainCode "dispatcher")) ++
    documented " Return the dispatcher used by this proxy." ++
    withBody (plainCode "pub fn dispatcher(&self) -> &::localrpc::dispatcher::Dispatcher<C>")
      (plainCode "&self.dispatcher") ++
    documented " Return a copy of this proxy that attaches `context` to every call." ++
    withBody
      (plainCode "pub fn with_security_context(&self, context: ::localrpc::context::SecurityContext) -> Self")
      (withBody (plainCode "Self")
        (plainCode "dispatcher: self.dispatcher.clone().with_security_context(context),"))

/-- the type of a proxy, with its documentation -/
def typeCode (p : Proxy) : Tokens :=
  documentedService "Proxy for the" p.service ++
    plainCode "#[doc = \"\"]
      #[doc = \"Forwards every method to the deployment block that registered the\"]
      #[doc = \"service, serializing arguments and results.\"]
      #[derive(Clone)]" ++
    withBody
      (Declaration.code [("vis", p.visibility), ("proxy", [.ident p.name])]
        "$vis struct $proxy<C: ::localrpc::codec::Codec = ::localrpc::codec::PostcardCodec>")
      (plainCode "dispatcher: ::localrpc::dispatcher::Dispatcher<C>,")

/-- what shows a proxy in diagnostics -/
def debugCode (p : Proxy) : Tokens :=
  let holes : Holes := [("proxy", [.ident p.name])]
  withBody (Declaration.code holes "impl<C: ::localrpc::codec::Codec> ::std::fmt::Debug for $proxy<C>")
    (withBody (plainCode "fn fmt(&self, f: &mut ::std::fmt::Formatter<'_>) -> ::std::fmt::Result")
      (Declaration.code holes
        "f.debug_struct(stringify!($proxy)).field(\"dispatcher\", &self.dispatcher).finish()"))

/-- what ties the service to its proxy -/
def serviceCode (p : Proxy) : Tokens :=
  let holes : Holes :=
    [("proxy", [.ident p.name]), ("service", [.ident p.service]), ("descriptor", [.ident p.descriptor])]
  withBody (Declaration.code holes "impl ::localrpc::proxy::LocalService for dyn $service")
    (Declaration.code holes "const INTERFACE: &'static ::localrpc::proxy::ServiceInterface = &$descriptor;" ++
      withBody
        (plainCode "fn from_dispatcher<C: ::localrpc::codec::Codec>(
            dispatcher: ::localrpc::dispatcher::Dispatcher<C>,
          ) -> ::std::sync::Arc<Self>")
        (Declaration.code holes "::std::sync::Arc::new($proxy::new(dispatcher))"))

def code (p : Proxy) : Tokens :=
  let holes : Holes := [("proxy", [.ident p.name]), ("service", [.ident p.service])]
  p.typeCode ++
    withBody (Declaration.code holes "impl<C: ::localrpc::codec::Codec> $proxy<C>") operationsCode ++
    p.debugCode ++
    withBody (Declaration.code holes "impl<C: ::localrpc::codec::Codec> $service for $proxy<C>")
      (p.methods.flatMap ProxyMethod.code) ++
    p.serviceCode

end Proxy

end Loopback.Declaration
