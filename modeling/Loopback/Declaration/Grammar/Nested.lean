/-
What the parsers of nested constructs give, and the record of them.

No parser of the grammar calls itself: each takes the parsers of what is nested in it as an argument, and `Nested` is
what lies one level deeper. An expression is read as an operand: its tokens, and what an operator, a statement or
attributes around it have to know of it.
- `Operand.statement`: an expression as a statement. Attributes in front belong to the leftmost operand, and a call in
  braces that an operator follows stands in parentheses, since it would end the statement.
-/
import Loopback.Declaration.Parser
import Loopback.Declaration.Trait

namespace Loopback.Declaration.Grammar

/-! ## Precedence -/

/-- how tightly an operator binds -/
inductive Precedence where
  /-- no operator -/
  | lowest
  | assign
  | range
  | or
  | and
  | compare
  | bitOr
  | bitXor
  | bitAnd
  | shift
  | sum
  | product
  | cast
deriving DecidableEq, Repr

/-- the place of a precedence, the loosest first -/
def Precedence.rank : Precedence → Nat
  | lowest => 0
  | assign => 1
  | range => 2
  | or => 3
  | and => 4
  | compare => 5
  | bitOr => 6
  | bitXor => 7
  | bitAnd => 8
  | shift => 9
  | sum => 10
  | product => 11
  | cast => 12

/-! ## Operands -/

/-- the form of an expression -/
inductive Form where
  /-- a range, which no operator takes as its left operand -/
  | range
  /-- a comparison, which no other may follow -/
  | comparison
  /-- any other operator with its operands -/
  | operation
  /-- an expression that ends with a block and stands as a statement without a semicolon -/
  | block
  /-- a call that expands, with its arguments in braces -/
  | bracedCall
  /-- an expression that is kept as it is written and takes no attributes -/
  | raw
  | other
deriving DecidableEq, Repr

/-- an expression as it is read -/
structure Operand where
  form : Form
  /-- the form of what attributes in front belong to: of the leftmost operand -/
  target : Form
  /-- a call in braces at the front that anything but a dot or a question mark follows -/
  call : Tokens
  /-- what follows that call -/
  rest : Tokens

namespace Operand

/-- an expression that is no operator with operands -/
def leaf (form : Form) (written : Tokens) : Operand :=
  ⟨form, form, [], written⟩

def tokens (e : Operand) : Tokens :=
  e.call ++ e.rest

/-- an expression with what follows it -/
def append (e : Operand) (form target : Form) (written : Tokens) : Operand :=
  if e.form = .bracedCall then ⟨form, target, e.tokens, written⟩ else ⟨form, target, e.call, e.rest ++ written⟩

/-- an operator and its right operand behind the left one -/
def operate (e : Operand) (form : Form) (written : Tokens) : Operand :=
  e.append form (if form = .range then .range else e.target) written

/-- arguments or an index behind an expression -/
def apply (e : Operand) (written : Tokens) : Operand :=
  e.append .other .other written

/-- a member or a question mark behind an expression -/
def select (e : Operand) (written : Tokens) : Operand :=
  ⟨.other, .other, e.call, e.rest ++ written⟩

/-- an expression with attributes in front of it -/
def attributed (attributes : Tokens) (e : Operand) : Operand :=
  if attributes.isEmpty || e.form = .raw then e
  else if e.form = .range then { e with call := [], rest := attributes ++ [parenthesized e.tokens] }
  else { e with call := [], rest := attributes ++ e.tokens }

/-- an expression with attributes in front of it as a statement -/
def statement (attributes : Tokens) (e : Operand) : Tokens :=
  let call (front : Tokens) := if e.call.isEmpty then front else [parenthesized (front ++ e.call)]
  match e.target with
  | .raw => e.tokens
  | .range => if attributes.isEmpty then call [] ++ e.rest else attributes ++ [parenthesized e.tokens]
  | .bracedCall => call attributes ++ e.rest
  | _ => attributes ++ call [] ++ e.rest

/-- whether an expression needs a comma behind it as an arm -/
def needsComma (e : Operand) : Bool :=
  e.form != .block

/-- whether an expression needs a semicolon behind it as a statement that is not the last -/
def needsSemicolon (e : Operand) : Bool :=
  e.form != .block && e.form != .bracedCall

end Operand

/-! ## Nested parsers -/

/-- the parsers of what is nested in a construct -/
structure Nested where
  /-- a type, with or without bounds joined by `+` -/
  type : Bool → Parser TypeExpr
  /-- an argument between angle brackets -/
  argument : Parser (GenericArgument TypeExpr)
  /-- a parameter between angle brackets, and whether it is a lifetime -/
  parameter : Parser (Bool × Tokens)
  /-- a pattern without bars -/
  pattern : Parser Pattern
  /-- an expression, with or without a struct at its end -/
  expression : Bool → Parser Tokens
  /-- an expression without operators behind it -/
  unary : Bool → Parser Operand
  /-- the right operand of an operator -/
  rightOperand : Bool → Precedence → Parser Operand
  /-- an expression that ends as soon as it may -/
  earlyExpression : Parser Operand
  /-- the statements of a block -/
  statements : Parser Tokens
  /-- an item with its attributes -/
  item : Parser Tokens

/-- parsers that refuse everything -/
def Nested.refuse : Nested :=
  ⟨fun _ => failure, failure, failure, failure, fun _ => failure, fun _ => failure, fun _ _ => failure, failure, failure,
    failure⟩

end Loopback.Declaration.Grammar
