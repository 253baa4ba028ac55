/-
The service that a trait declares.

`ServiceDef.ofTrait` checks a trait and the arguments of its attribute, first the arguments, then the trait, then its
items in order, and gives the first fault it meets or the service. A marker `bypass` on a parameter or a method has it
passed by reference; the service keeps the trait without its markers.
- `stripped_stripped`: markers are removed at once.
-/
import Loopback.Declaration.Trait

namespace Loopback.Declaration

/-! ## Faults -/

/-- what keeps a trait from declaring a service -/
inductive DefinitionError where
  /-- the name of the interface is a literal but no string -/
  | nameNotText
  | unknownArgument
  | genericTrait
  /-- an item is no method -/
  | notMethod
  | noMethods
  | asyncMethod
  | genericMethod
  /-- the receiver is not `&self` -/
  | receiver
  /-- a parameter is no plain name -/
  | parameterName
  /-- the type of a parameter is a reference or an `impl` -/
  | borrowedParameter
  /-- the output is no `Result` of two types -/
  | notResult
deriving DecidableEq, Repr

namespace DefinitionError

def message : DefinitionError → String
  | nameNotText => "name attribute must be a string literal"
  | unknownArgument => "Unknown attribute. Supported: name"
  | genericTrait => "Local service traits cannot be generic"
  | notMethod => "Local service traits may only contain methods"
  | noMethods => "Service trait must have at least one method"
  | asyncMethod => "Local service methods are synchronous; remove `async`"
  | genericMethod => "Local service methods cannot be generic"
  | receiver => "Local service methods must take `&self`"
  | parameterName => "Only simple parameter names are supported"
  | borrowedParameter => "Local service parameters must be owned values"
  | notResult => "Local service methods must return `Result<T, E>`"

end DefinitionError

/-! ## Services -/

/-- a parameter of a method, the receiver not among them -/
structure ParamDef where
  name : Ident
  type : TypeExpr
  /-- whether the argument is passed by reference -/
  bypass : Bool
  /-- `T`, if the type is written `Option<T>` -/
  optional : Option TypeExpr
deriving Repr

/-- a method of a service, whose output is written `Result<T, E>` -/
structure MethodDef where
  name : Ident
  params : List ParamDef
  output : TypeExpr
  okType : TypeExpr
  errType : TypeExpr
  /-- whether the result is passed by reference -/
  resultBypass : Bool
deriving Repr

/-- a service -/
structure ServiceDef where
  /-- the trait without its markers -/
  trait : TraitDecl
  name : Ident
  visibility : Tokens
  interfaceName : String
  methods : List MethodDef
deriving Repr

/-! ## Types -/

def GenericArgument.type? {α : Type} : GenericArgument α → Option α
  | .type t => some t
  | _ => none

namespace TypeExpr

/-- the arguments of a path whose last segment has a name, if all of them are types -/
def typeArguments? (name : String) : TypeExpr → Option (List TypeExpr)
  | .path false _ i (.angled _ l _) => if i == .plain name then l.mapM GenericArgument.type? else none
  | _ => none

/-- `T` of `Option<T>` -/
def optional? (t : TypeExpr) : Option TypeExpr :=
  match t.typeArguments? "Option" with
  | some [inner] => some inner
  | _ => none

/-- `T` and `E` of `Result<T, E>` -/
def result? (t : TypeExpr) : Option (TypeExpr × TypeExpr) :=
  match t.typeArguments? "Result" with
  | some [ok, err] => some (ok, err)
  | _ => none

/-- whether a type is a reference or an `impl` -/
def isBorrowed : TypeExpr → Bool
  | .reference _ => true
  | .implTrait _ => true
  | _ => false

end TypeExpr

/-! ## Markers -/

/-- whether an attribute is the marker of what is passed by reference -/
def Attribute.isBypass (a : Attribute) : Bool :=
  a.path.isWord "bypass"

/-- whether a marker is among attributes -/
def hasBypass (l : List Attribute) : Bool :=
  l.any Attribute.isBypass

/-- attributes without their markers -/
def stripBypass (l : List Attribute) : List Attribute :=
  l.filter fun a => !a.isBypass

@[simp] theorem stripBypass_stripBypass (l : List Attribute) : stripBypass (stripBypass l) = stripBypass l := by
  simp [stripBypass]

/-- an input without its markers; a receiver keeps its attributes -/
def Input.stripped : Input → Input
  | .receiver attributes r => .receiver attributes r
  | .typed attributes p t => .typed (stripBypass attributes) p t

/-- a method without its markers -/
def MethodDecl.stripped (m : MethodDecl) : MethodDecl :=
  { m with attributes := stripBypass m.attributes, inputs := m.inputs.map Input.stripped }

/-- an item without its markers -/
def TraitItem.stripped : TraitItem → TraitItem
  | .method m => .method m.stripped
  | .other w => .other w

/-- a trait without the markers of its methods; its own attributes stay -/
def TraitDecl.stripped (t : TraitDecl) : TraitDecl :=
  { t with items := t.items.map TraitItem.stripped }

@[simp] theorem Input.stripped_stripped (i : Input) : i.stripped.stripped = i.stripped := by
  cases i <;> simp [Input.stripped]

@[simp] theorem MethodDecl.stripped_stripped (m : MethodDecl) : m.stripped.stripped = m.stripped := by
  simp [MethodDecl.stripped, Function.comp_def]

@[simp] theorem TraitItem.stripped_stripped (i : TraitItem) : i.stripped.stripped = i.stripped := by
  cases i <;> simp [TraitItem.stripped]

theorem TraitDecl.stripped_stripped (t : TraitDecl) : t.stripped.stripped = t.stripped := by
  simp [TraitDecl.stripped, Function.comp_def]

/-! ## Checks -/

/-- a parameter from its attributes, pattern and type -/
def ParamDef.ofTyped (attributes : List Attribute) (pattern : Pattern) (type : TypeExpr) :
    Except DefinitionError ParamDef :=
  match pattern with
  | .name false _ name none =>
    if type.isBorrowed then .error .borrowedParameter
    else .ok ⟨name, type, hasBypass attributes, type.optional?⟩
  | _ => .error .parameterName

/-- the parameters among inputs, in order -/
def ParamDef.ofInputs : List Input → Except DefinitionError (List ParamDef)
  | [] => .ok []
  | .receiver _ _ :: r => ofInputs r
  | .typed attributes p t :: r => do
    let a ← ofTyped attributes p t
    return a :: (← ofInputs r)

/-- whether a receiver is written `&self`, maybe with a lifetime -/
def Receiver.isShared : Receiver → Bool
  | .borrowed _ false => true
  | _ => false

/-- the types of a method's output, and the output -/
def MethodDecl.result? (m : MethodDecl) : Option (TypeExpr × TypeExpr × TypeExpr) :=
  m.output.bind fun t => t.result?.map fun (ok, err) => (t, ok, err)

/-- a method of a service -/
def MethodDef.ofDecl (m : MethodDecl) : Except DefinitionError MethodDef :=
  if m.isAsync then .error .asyncMethod
  else if m.generics.isGeneric then .error .genericMethod
  else if !m.receiver?.any Receiver.isShared then .error .receiver
  else do
    let params ← ParamDef.ofInputs m.inputs
    match m.result? with
    | some (output, ok, err) => .ok ⟨m.name, params, output, ok, err, hasBypass m.attributes⟩
    | none => .error .notResult

/-- the methods among items, all of which must be methods -/
def MethodDef.ofItems : List TraitItem → Except DefinitionError (List MethodDef)
  | [] => .ok []
  | .other _ :: _ => .error .notMethod
  | .method m :: r => do
    let a ← ofDecl m
    return a :: (← ofItems r)

/-- the name of the interface: the last one given, or the name of the trait -/
def AttributeArgument.interfaceName : String → List AttributeArgument → Except DefinitionError String
  | name, [] => .ok name
  | _, .assignment p (.text s) :: r =>
    if p.isWord "name" then interfaceName s r else .error .unknownArgument
  | _, .assignment p (.literal _) :: _ =>
    if p.isWord "name" then .error .nameNotText else .error .unknownArgument
  | _, _ :: _ => .error .unknownArgument

/-- the service of a trait whose interface has a name -/
def ServiceDef.ofNamed (t : TraitDecl) (interface : String) : Except DefinitionError ServiceDef :=
  if t.generics.isGeneric then .error .genericTrait
  else do
    let methods ← MethodDef.ofItems t.items
    if methods.isEmpty then .error .noMethods
    else .ok ⟨t.stripped, t.name, t.visibility, interface, methods⟩

/-- the service that a trait declares under the arguments of its attribute -/
def ServiceDef.ofTrait (t : TraitDecl) (arguments : List AttributeArgument) : Except DefinitionError ServiceDef := do
  ServiceDef.ofNamed t (← AttributeArgument.interfaceName t.name.text arguments)

end Loopback.Declaration
