/-
Trait declarations.

The parts of a declaration that decide whether it declares a service, and what service, have a shape of their own; the
rest is kept as a run of tokens. `tokens` writes a part back: what was read is written in the same order, except that
lifetimes come first between angle brackets and that empty generics and an empty `where` vanish.
-/
import Loopback.Declaration.Token

namespace Loopback.Declaration

/-! ## Attributes -/

/-- a path without arguments; a global one opens with two colons -/
structure ModulePath where
  isGlobal : Bool
  segments : List Ident
deriving DecidableEq, Repr

namespace ModulePath

/-- whether a path is one plain identifier -/
def isWord (p : ModulePath) (name : String) : Bool :=
  p == ⟨false, [.plain name]⟩

/-- the tokens of segments with two colons between them -/
def segmentTokens : List Ident → Tokens
  | [] => []
  | [i] => [.ident i]
  | i :: r => .ident i :: (colons ++ segmentTokens r)

def tokens (p : ModulePath) : Tokens :=
  (if p.isGlobal then colons else []) ++ segmentTokens p.segments

end ModulePath

/-- an attribute; an inner one belongs to what it stands in -/
structure Attribute where
  isInner : Bool
  path : ModulePath
  /-- the arguments, or the value and what joins it to the path -/
  rest : Tokens
deriving Repr

namespace Attribute

def tokens (a : Attribute) : Tokens :=
  [sign '#'] ++ (if a.isInner then [sign '!'] else []) ++ [bracketed (a.path.tokens ++ a.rest)]

/-- the attributes in front of what they belong to -/
def outer (l : List Attribute) : Tokens :=
  (l.filter fun a => !a.isInner).flatMap tokens

/-- the attributes inside what they belong to -/
def inner (l : List Attribute) : Tokens :=
  (l.filter fun a => a.isInner).flatMap tokens

end Attribute

/-! ## Types -/

/-- a lifetime -/
def lifetimeTokens (name : Ident) : Tokens :=
  [.punct '\'' true, .ident name]

/-- an argument between angle brackets -/
inductive GenericArgument (α : Type) where
  | lifetime (name : Ident)
  | type (t : α)
  /-- a constant, an associated type or constant, or a constraint -/
  | other (written : Tokens)
deriving Repr

/-- the arguments of a path segment -/
inductive PathArguments (α : Type) where
  | none
  /-- `(A, B) -> C` -/
  | parenthesized (written : Tokens)
  /-- `<A, B>`, maybe after two colons and with a comma after the last argument -/
  | angled (afterColons : Bool) (arguments : List (GenericArgument α)) (trailing : Bool)
deriving Repr

namespace PathArguments

def isNone {α : Type} : PathArguments α → Bool
  | none => true
  | _ => false

def isParenthesized {α : Type} : PathArguments α → Bool
  | parenthesized _ => true
  | _ => false

end PathArguments

/-- a type -/
inductive TypeExpr where
  /-- a path: what is in front of its last segment, and that segment; a qualified one opens with `<T as U>` -/
  | path (qualified : Bool) (lead : Tokens) (name : Ident) (arguments : PathArguments TypeExpr)
  | reference (written : Tokens)
  | implTrait (written : Tokens)
  /-- a single bound that stands for an object, maybe in parentheses -/
  | bound (inParentheses : Bool) (written : Tokens)
  /-- a tuple, a slice, a pointer or any other type -/
  | other (written : Tokens)
deriving Repr

/-- the tokens of one argument with its comma, after what has been written and whether that needs a comma -/
def appendArgument (state : Tokens × Bool) (argument : Tokens) (comma : Bool) : Tokens × Bool :=
  (state.1 ++ (if state.2 then [sign ','] else []) ++ argument ++ (if comma then [sign ','] else []), !comma)

/-- whether an argument is a lifetime, its tokens, and whether a comma follows it -/
abbrev WrittenArgument := Bool × Tokens × Bool

/-- the tokens between angle brackets: the lifetimes and then the others, each with its comma, and with the comma that
another needs in front of it -/
def angledTokens (l : List WrittenArgument) : Tokens :=
  let lifetimes := l.filter fun a => a.1
  let others := l.filter fun a => !a.1
  let (written, pending) := lifetimes.foldl (fun s a => (s.1 ++ a.2.1 ++ (if a.2.2 then [sign ','] else []), !a.2.2))
    (([], false) : Tokens × Bool)
  (others.foldl (fun s a => appendArgument s a.2.1 a.2.2) (written, pending)).1

/-- a list between angle brackets with its commas: one follows each item but the last, which has one if the list is
trailing -/
def withCommas (trailing : Bool) : List (Bool × Tokens) → List WrittenArgument
  | [] => []
  | (isLifetime, t) :: r => (isLifetime, t, !r.isEmpty || trailing) :: withCommas trailing r

mutual

/-- the tokens of a type -/
def TypeExpr.tokens : TypeExpr → Tokens
  | .path _ lead name arguments => lead ++ [.ident name] ++ argumentsTokens arguments
  | .reference w => w
  | .implTrait w => w
  | .bound inParentheses w => if inParentheses then [parenthesized w] else w
  | .other w => w

/-- the tokens of the arguments of a path segment -/
def argumentsTokens : PathArguments TypeExpr → Tokens
  | .none => []
  | .parenthesized w => w
  | .angled afterColons arguments trailing =>
    (if afterColons then colons else []) ++ [sign '<'] ++ angledTokens (writtenArguments trailing arguments) ++ [sign '>']

/-- arguments with their commas: one follows each but the last, which has one if the list is trailing -/
def writtenArguments (trailing : Bool) : List (GenericArgument TypeExpr) → List WrittenArgument
  | [] => []
  | a :: r => writtenArgument (!r.isEmpty || trailing) a :: writtenArguments trailing r

/-- an argument with its comma -/
def writtenArgument (comma : Bool) : GenericArgument TypeExpr → WrittenArgument
  | .lifetime name => (true, lifetimeTokens name, comma)
  | .type t => (false, t.tokens, comma)
  | .other w => (false, w, comma)

end

/-! ## Methods -/

/-- a pattern -/
inductive Pattern where
  /-- a name, maybe with `ref` and `mut` in front and a pattern after `@` -/
  | name (byRef isMut : Bool) (ident : Ident) (sub : Option Tokens)
  /-- a range, which is open if it lacks an end -/
  | range (isOpen : Bool) (written : Tokens)
  /-- a block as a constant, with the attributes inside it -/
  | constant (inner body : Tokens)
  /-- a pattern that is kept as it is written and takes no attributes -/
  | raw (written : Tokens)
  | other (written : Tokens)
deriving Repr

namespace Pattern

def tokens : Pattern → Tokens
  | .name byRef isMut ident sub =>
    (if byRef then [word "ref"] else []) ++ (if isMut then [word "mut"] else []) ++ [.ident ident] ++
      match sub with
      | some p => sign '@' :: p
      | none => []
  | .range _ w => w
  | .constant inner body => [word "const", braced (inner ++ body)]
  | .raw w => w
  | .other w => w

/-- a pattern with the attributes in front of it, which replace those inside it; a range that has any is in
parentheses -/
def attributed (attributes : Tokens) : Pattern → Tokens
  | .range isOpen w => if attributes.isEmpty then tokens (.range isOpen w) else attributes ++ [parenthesized w]
  | .constant _ body => attributes ++ tokens (.constant [] body)
  | .raw w => w
  | p => attributes ++ p.tokens

end Pattern

/-- the receiver of a method -/
inductive Receiver where
  | borrowed (lifetime : Option Ident) (isMut : Bool)
  | owned (isMut : Bool) (type : Option TypeExpr)
deriving Repr

def Receiver.tokens : Receiver → Tokens
  | .borrowed lifetime isMut =>
    [sign '&'] ++ (lifetime.map lifetimeTokens).getD [] ++ (if isMut then [word "mut"] else []) ++ [word "self"]
  | .owned isMut type =>
    (if isMut then [word "mut"] else []) ++ [word "self"] ++
      match type with
      | some t => sign ':' :: t.tokens
      | none => []

/-- an input of a method -/
inductive Input where
  | receiver (attributes : List Attribute) (receiver : Receiver)
  | typed (attributes : List Attribute) (pattern : Pattern) (type : TypeExpr)
deriving Repr

def Input.tokens : Input → Tokens
  | .receiver attributes r => Attribute.outer attributes ++ r.tokens
  | .typed attributes p t => Attribute.outer attributes ++ p.tokens ++ [sign ':'] ++ t.tokens

/-- parameters between angle brackets, and constraints after `where` -/
structure Generics where
  parameters : Tokens
  constraints : Option Tokens
deriving Repr

namespace Generics

/-- neither parameters nor constraints -/
def none : Generics := ⟨[], Option.none⟩

/-- whether there are parameters or a `where` -/
def isGeneric (g : Generics) : Bool :=
  !g.parameters.isEmpty || g.constraints.isSome

def parameterTokens (g : Generics) : Tokens :=
  if g.parameters.isEmpty then [] else [sign '<'] ++ g.parameters ++ [sign '>']

def constraintTokens (g : Generics) : Tokens :=
  match g.constraints with
  | some (t :: r) => word "where" :: t :: r
  | _ => []

end Generics

/-- a list with commas between its items, and after the last one if it is trailing -/
def commaSeparated (trailing : Bool) : List Tokens → Tokens
  | [] => []
  | [a] => a ++ if trailing then [sign ','] else []
  | a :: r => a ++ [sign ','] ++ commaSeparated trailing r

/-- a method of a trait -/
structure MethodDecl where
  attributes : List Attribute
  isConst : Bool
  isAsync : Bool
  isUnsafe : Bool
  abi : Tokens
  name : Ident
  generics : Generics
  inputs : List Input
  /-- whether a comma follows the last input -/
  trailing : Bool
  variadic : Tokens
  /-- the type after the arrow -/
  output : Option TypeExpr
  body : Option Tokens
deriving Repr

/-- the arrow and a type -/
def outputTokens : Option TypeExpr → Tokens
  | some t => [.punct '-' true, sign '>'] ++ t.tokens
  | none => []

namespace MethodDecl

/-- the inputs and what is variadic, with the comma that parts them -/
def inputTokens (m : MethodDecl) : Tokens :=
  commaSeparated m.trailing (m.inputs.map Input.tokens) ++
    (if !m.variadic.isEmpty && !m.inputs.isEmpty && !m.trailing then [sign ','] else []) ++ m.variadic

def tokens (m : MethodDecl) : Tokens :=
  Attribute.outer m.attributes ++ (if m.isConst then [word "const"] else []) ++
    (if m.isAsync then [word "async"] else []) ++ (if m.isUnsafe then [word "unsafe"] else []) ++ m.abi ++
    [word "fn", .ident m.name] ++ m.generics.parameterTokens ++ [parenthesized m.inputTokens] ++
    outputTokens m.output ++ m.generics.constraintTokens ++
    match m.body with
    | some b => [braced (Attribute.inner m.attributes ++ b)]
    | none => [sign ';']

/-- the receiver: the first input, if it is one -/
def receiver? (m : MethodDecl) : Option Receiver :=
  match m.inputs with
  | .receiver _ r :: _ => some r
  | _ => none

end MethodDecl

/-! ## Traits -/

/-- an item of a trait -/
inductive TraitItem where
  | method (m : MethodDecl)
  /-- a constant, a type or any other item -/
  | other (written : Tokens)
deriving Repr

def TraitItem.tokens : TraitItem → Tokens
  | .method m => m.tokens
  | .other w => w

/-- a trait -/
structure TraitDecl where
  attributes : List Attribute
  visibility : Tokens
  isUnsafe : Bool
  isAuto : Bool
  name : Ident
  generics : Generics
  /-- the bounds after the colon -/
  bounds : Tokens
  items : List TraitItem
deriving Repr

namespace TraitDecl

def tokens (t : TraitDecl) : Tokens :=
  Attribute.outer t.attributes ++ t.visibility ++ (if t.isUnsafe then [word "unsafe"] else []) ++
    (if t.isAuto then [word "auto"] else []) ++ [word "trait", .ident t.name] ++ t.generics.parameterTokens ++
    (if t.bounds.isEmpty then [] else sign ':' :: t.bounds) ++ t.generics.constraintTokens ++
    [braced (Attribute.inner t.attributes ++ t.items.flatMap TraitItem.tokens)]

end TraitDecl

/-! ## Attribute arguments -/

/-- the value of an attribute argument -/
inductive ArgumentValue where
  /-- a string literal, by what it stands for -/
  | text (s : String)
  /-- any other literal -/
  | literal (written : Tokens)
  | expression (written : Tokens)
deriving Repr

/-- an argument of an attribute -/
inductive AttributeArgument where
  | path (p : ModulePath)
  /-- a path with bracketed arguments -/
  | list (p : ModulePath) (written : Tokens)
  /-- `path = value` -/
  | assignment (p : ModulePath) (value : ArgumentValue)
deriving Repr

end Loopback.Declaration
