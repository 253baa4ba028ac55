/-
Expanding a declaration: the text of a trait and of its attribute's arguments in, generated code out.

The trait is read first and the arguments after it; a text that cannot be read is a fault before any of what it says.
- `ServiceDef.ofText`: the service that the two texts declare;
- `Expansion.ofService?`: all that is generated for it.
-/
import Loopback.Declaration.Grammar.Level
import Loopback.Declaration.InvokerCode
import Loopback.Declaration.ProxyCode

namespace Loopback.Declaration

/-- what keeps texts from declaring a service -/
inductive ExpansionError where
  /-- one of the texts is malformed -/
  | malformed
  | definition (e : DefinitionError)
deriving DecidableEq, Repr

/-- the service that the text of a trait declares under the text of its attribute's arguments -/
def ServiceDef.ofText (trait arguments : String) : Except ExpansionError ServiceDef :=
  match TraitDecl.read? trait, AttributeArgument.readAll? arguments with
  | some t, some l => (ServiceDef.ofTrait t l).mapError .definition
  | _, _ => .error .malformed

/-- what is generated for a service -/
structure Expansion where
  descriptor : Descriptor
  proxy : Proxy
  invoker : InvokerDef

/-- what is generated for a service, if its descriptor has a name -/
def Expansion.ofService? (s : ServiceDef) : Option Expansion := do
  return ⟨← Descriptor.ofService? s, ← Proxy.ofService? s, InvokerDef.ofService s⟩

/-- the code of an expansion, the trait in front -/
def Expansion.code (s : ServiceDef) (e : Expansion) : Tokens :=
  s.trait.tokens ++ e.descriptor.code ++ e.proxy.code ++ e.invoker.code

end Loopback.Declaration
