/-
Interface descriptors.

`Descriptor.ofService?` describes a service: its methods in order, their parameters in order and the way each is passed.
The descriptor is a constant named after the trait, so a raw trait name, which has no such constant, has none.
-/
import Loopback.Declaration.ServiceDef
import Loopback.Declaration.Template
import Loopback.Text.Identifier
import Loopback.Text.LetterCase

namespace Loopback.Declaration

/-! ## Names -/

/-- the upper case of an identifier, an underscore in front of every upper-case letter that follows a small letter or a
digit -/
def upperSnakeAfter (small : Bool) : List Char → List Char
  | [] => []
  | c :: r =>
    (if small && Text.isUpper c then ['_'] else []) ++ Text.toUpper c ++
      upperSnakeAfter (Text.isLower c || c.isDigit) r

def upperSnake (s : String) : String :=
  String.ofList (upperSnakeAfter false s.toList)

/-- the plain identifier of a text, if it is one -/
def Ident.ofText? (s : String) : Option Ident :=
  match s.toList with
  | [] => none
  | c :: r => if Text.isIdentifierStart c && r.all Text.isIdentifierRest then some (.plain s) else none

/-- the name of a service before a suffix -/
def ServiceDef.suffixed (s : ServiceDef) (suffix : String) : Ident :=
  .plain (s.name.name ++ suffix)

/-- the name of the constant that describes a service -/
def ServiceDef.descriptorName? (s : ServiceDef) : Option Ident :=
  Ident.ofText? (upperSnake s.name.text ++ "_INTERFACE")

/-! ## Descriptors -/

/-- a described parameter -/
structure ParameterDescriptor where
  name : String
  bypass : Bool
  optional : Bool
deriving DecidableEq, Repr

/-- a described method -/
structure MethodDescriptor where
  name : String
  parameters : List ParameterDescriptor
  resultBypass : Bool
deriving DecidableEq, Repr

/-- a described service -/
structure Descriptor where
  constant : Ident
  visibility : Tokens
  service : Ident
  interfaceName : String
  methods : List MethodDescriptor
deriving Repr

def ParameterDescriptor.ofParam (p : ParamDef) : ParameterDescriptor :=
  ⟨p.name.text, p.bypass, p.optional.isSome⟩

def MethodDescriptor.ofMethod (m : MethodDef) : MethodDescriptor :=
  ⟨m.name.text, m.params.map .ofParam, m.resultBypass⟩

/-- the descriptor of a service, if its constant has a name -/
def Descriptor.ofService? (s : ServiceDef) : Option Descriptor :=
  s.descriptorName?.map fun constant => ⟨constant, s.visibility, s.name, s.interfaceName, s.methods.map .ofMethod⟩

/-! ## Code -/

namespace ParameterDescriptor

def code (p : ParameterDescriptor) : Tokens :=
  withBody (plainCode "::localrpc::proxy::ParameterDescriptor")
    (Declaration.code [("name", [stringLiteral p.name]), ("bypass", truth p.bypass), ("optional", truth p.optional)]
      "name: $name, bypass: $bypass, optional: $optional,")

end ParameterDescriptor

namespace MethodDescriptor

def code (m : MethodDescriptor) : Tokens :=
  withBody (plainCode "::localrpc::proxy::MethodDescriptor")
    (Declaration.code
      [("name", [stringLiteral m.name]), ("parameters", listed (m.parameters.map ParameterDescriptor.code)),
        ("bypass", truth m.resultBypass)]
      "name: $name, parameters: &[$parameters], result_bypass: $bypass,")

end MethodDescriptor

/-- the attribute that documents what belongs to a service -/
def documentedService (what : String) (service : Ident) : Tokens :=
  code [("what", [stringLiteral (what ++ " `")]), ("service", [.ident service]), ("rest", [stringLiteral "` service"])]
    "#[doc = concat!($what, stringify!($service), $rest)]"

def Descriptor.code (d : Descriptor) : Tokens :=
  documentedService "Interface descriptor of the" d.service ++
    withBody
      (Declaration.code [("vis", d.visibility), ("constant", [.ident d.constant])]
        "$vis const $constant: ::localrpc::proxy::ServiceInterface = ::localrpc::proxy::ServiceInterface")
      (Declaration.code
        [("name", [stringLiteral d.interfaceName]), ("methods", listed (d.methods.map MethodDescriptor.code))]
        "name: $name, methods: &[$methods],") ++
    [sign ';']

end Loopback.Declaration
