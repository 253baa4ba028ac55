/-
Reading traits and attribute arguments.

`level n` parses what is nested at most `n` deep. Between two levels a tree is taken or a group entered, but for an
argument that is a type, so twice as many levels as the text has trees, and a few more, never run out.
- `TraitDecl.read?`: the trait that a whole text declares;
- `AttributeArgument.readAll?`: the arguments between the parentheses of an attribute.
-/
import Loopback.Declaration.Grammar.Statement
import Loopback.Declaration.Lexer

namespace Loopback.Declaration

namespace Grammar

/-- the parsers of what is nested at most so deep -/
def level : Nat → Nested
  | 0 => Nested.refuse
  | n + 1 =>
    let g := level n
    { type := typeExpr g
      argument := genericArgument g
      parameter := genericParameter g
      pattern := pattern g
      expression := expression g
      unary := unary g
      rightOperand := rightOperand g
      earlyExpression := earlyExpression g
      statements := statements g
      item := item g }

/-- the levels that suffice for a text -/
def levelOf (ts : Tokens) : Nested :=
  level (2 * Tokens.size ts + 8)

end Grammar

/-- the trait that a whole text declares -/
def TraitDecl.read? (text : String) : Option TraitDecl := do
  let ts ← Tokens.ofText? text
  whole (Grammar.traitDecl (Grammar.levelOf ts)) ts

/-- the arguments between the parentheses of an attribute, commas between them -/
def AttributeArgument.readAll? (text : String) : Option (List AttributeArgument) := do
  let ts ← Tokens.ofText? text
  let (l, _) ← whole (separated "," List.isEmpty (Grammar.attributeArgument (Grammar.levelOf ts))) ts
  return l

end Loopback.Declaration
