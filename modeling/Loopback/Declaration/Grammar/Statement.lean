/-
The grammar of statements.

A statement is a declaration of names, an item, a call that expands, or an expression. Behind an expression stands a
semicolon unless it is the last, ends with a block or is a call in braces.
-/
import Loopback.Declaration.Grammar.Expression
import Loopback.Declaration.Grammar.Item

namespace Loopback.Declaration.Grammar

open Tokens

variable (g : Nested)

/-! ## Openings -/

/-- whether an item opens -/
def atItem (ts : Tokens) : Bool :=
  let second := next ts
  let third := next second
  atAnyWord ["pub", "extern", "use", "fn", "mod", "type", "struct", "enum", "trait", "impl", "macro"] ts ||
    (atWord "crate" ts && !atSign "::" second) ||
    (atWord "static" ts && (atWord "mut" second || atIdent second)) ||
    (atWord "const" ts && !(atGroup .brace second || atAnyWord ["static", "move"] second || atSign "|" second ||
      (atWord "async" second && !atAnyWord ["unsafe", "extern", "fn"] third))) ||
    (atWord "unsafe" ts && !atGroup .brace second) ||
    (atWord "async" ts && atAnyWord ["unsafe", "extern", "fn"] second) ||
    (atWord "union" ts && atIdent second) || (atWord "auto" ts && atWord "trait" second) ||
    (atWord "default" ts && atAnyWord ["unsafe", "impl"] second)

/-- what follows the path and the exclamation mark of a call that expands, if one opens -/
def afterBang? (ts : Tokens) : Option Tokens :=
  match modulePath.run ts with
  | some (_, rest) => if atSign "!" rest then some (next rest) else none
  | none => none

/-- what a call that expands is, by what follows its exclamation mark -/
inductive CallKind where
  /-- it has a name and defines items -/
  | item
  /-- it stands in braces as a statement of its own -/
  | statement
  | expression

/-- the kind of the call that opens; a dot or a question mark behind the braces makes it part of an expression -/
def callKind (ts : Tokens) : CallKind :=
  match afterBang? ts with
  | none => .expression
  | some after =>
    if atIdent after || atWord "try" after then .item
    else if atGroup .brace after && !(atMember (next after) || atSign "?" (next after)) then .statement
    else .expression

/-! ## Statements -/

/-- whether a run of trees ends with a group in braces -/
def endsInBraces (ts : Tokens) : Bool :=
  ts.getLast?.any fun t => atGroup .brace [t]

/-- a declaration of names; only behind a value that does not end in braces may `else` stand -/
def letStatement : Parser Tokens := do
  let opening ← keyword "let" ++ patternTokens g ++ whenAt (atSign ":") (symbol ":" ++ typeTokens g true)
  let value ← whenAt (atSign "=") (symbol "=" ++ g.expression true)
  let diverging ← whenAt (fun ts => atWord "else" ts && !value.isEmpty && !endsInBraces value) (keyword "else" ++ block g)
  return opening ++ value ++ diverging ++ (← symbol ";")

/-- an expression as a statement, and whether another may follow it only after a semicolon -/
def expressionStatement (attributes : Tokens) : Parser (Tokens × Bool) := do
  let e ← earlyExpression g
  let semicolon ← optional (symbol ";")
  return (e.statement attributes ++ semicolon, e.needsSemicolon && semicolon.isEmpty)

/-- a statement, and whether another may follow it only after a semicolon -/
def statement : Parser (Tokens × Bool) := do
  let before ← get
  let attributes ← outerAttributeTokens g
  let ts ← get
  match callKind ts with
  | .item => return (← itemAfter g before attributes, false)
  | .statement =>
    let p ← modulePath
    return (attributes ++ p.tokens ++ (← symbol "!" ++ anyGroup ++ optional (symbol ";")), false)
  | .expression =>
    if atWord "let" ts then return (attributes ++ (← letStatement g), false)
    else if atItem ts then return (← itemAfter g before attributes, false)
    else expressionStatement g attributes

/-- statements up to the end of a group -/
def statements : Parser Tokens := do
  let (taken, _) ← iterate (fun ((taken, blocked) : Tokens × Bool) => do
    let ts ← get
    if ts.isEmpty then return none
    else if blocked then failure
    else if atSign ";" ts then return some (taken ++ (← symbol ";"), false)
    else
      let (s, needsSemicolon) ← statement g
      return some (taken ++ s, needsSemicolon)) ([], false)
  return taken

end Loopback.Declaration.Grammar
