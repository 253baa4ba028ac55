/-
The grammar of expressions.

An operand is read with what follows it, then the operators behind it down to a precedence. Comparisons do not chain,
nothing follows a range as its operator, and a cast takes nothing behind its type but an operator.
- `chain`: the operators behind an operand;
- `earlyExpression`: an expression that ends as soon as it may, as a statement and an arm do.
-/
import Loopback.Declaration.Grammar.Generics
import Loopback.Declaration.Grammar.Pattern

namespace Loopback.Declaration.Grammar

open Tokens

variable (g : Nested)

/-! ## Operators -/

/-- the operators of two operands; the first that fits is meant -/
def operators : List (String × Precedence) :=
  (["+=", "-=", "*=", "/=", "%=", "^=", "&=", "|=", "<<=", ">>="].map (·, .assign)) ++
    [("&&", .and), ("||", .or), ("<<", .shift), (">>", .shift)] ++
    (["==", "<=", "!=", ">="].map (·, .compare)) ++
    [("+", .sum), ("-", .sum), ("*", .product), ("/", .product), ("%", .product), ("^", .bitXor), ("&", .bitAnd),
      ("|", .bitOr), ("<", .compare), (">", .compare)]

/-- the operator at the front of a run -/
def operator? (ts : Tokens) : Option (String × Precedence) :=
  operators.find? fun (s, _) => atSign s ts

/-- what joins an operand to what follows, and how tightly -/
def joint? (ts : Tokens) : Option (String × Precedence) :=
  operator? ts <|>
    (if atSign "=" ts && !atSign "=>" ts then some ("=", .assign)
    else if atSign ".." ts then some ("..", .range)
    else if atWord "as" ts then some ("as", .cast)
    else none)

/-- whether an operator follows that reads like the front of arguments -/
def atLess (ts : Tokens) : Bool :=
  atSign "<" ts && !atAnySign ["<=", "<<="] ts

/-- whether a dot takes a part of what is in front of it -/
def atMember (ts : Tokens) : Bool :=
  atSign "." ts && !atSign ".." ts

/-- whether an expression may open here -/
def atExpression (ts : Tokens) : Bool :=
  let sign (s : String) (longer : List String) := atSign s ts && !atAnySign longer ts
  (atAnyIdent ts && !atWord "as" ts) || atGroup .parenthesis ts || atGroup .bracket ts || atGroup .brace ts ||
    atLiteral ts || sign "!" ["!="] || sign "-" ["-=", "->"] || sign "*" ["*="] || sign "|" ["|="] ||
    sign "&" ["&="] || atSign ".." ts || sign "<" ["<=", "<<="] || atSign "::" ts || atLifetime ts || atSign "#" ts

/-- whether a range that has two dots ends without an upper end -/
def atRangeEnd (allowStruct : Bool) (ts : Tokens) : Bool :=
  ts.isEmpty || atAnySign [",", ";", "?", "=>", "=", "+", "/", "%", "^", ">", "<=", "!=", "-=", "*=", "&=", "|=", "<<="] ts ||
    atMember ts || (!allowStruct && atGroup .brace ts) || atWord "as" ts

/-- the dots of a range and its upper end, if it has one -/
def rangeTail (allowStruct : Bool) : Parser Tokens := do
  if ← at? (atSign "..=") then return (← symbol "..=") ++ (← g.rightOperand allowStruct .range).tokens
  else if ← at? (atSign "...") then failure
  else
    let dots ← symbol ".."
    if ← at? (atRangeEnd allowStruct) then return dots
    else return dots ++ (← g.rightOperand allowStruct .range).tokens

/-- the operators and operands behind an operand, down to a precedence; a cast stands in parentheses where its type would
seem to go on with arguments -/
def chain (allowStruct : Bool) (base : Precedence) (first : Operand) : Parser Operand :=
  iterate (fun e => do
    match joint? (← get) with
    | none => return none
    | some (s, p) =>
      if e.form = .range || p.rank < base.rank then return none
      else match p with
        | .range => return some (e.operate .range (← rangeTail g allowStruct))
        | .cast =>
          let written ← keyword "as" ++ typeTokens g false
          if ← at? (fun ts => atMember ts || atSign "?" ts || atGroup .bracket ts || atGroup .parenthesis ts) then failure
          else if endsInPath written && (← at? atLess) then
            return some (.leaf .operation [parenthesized (e.tokens ++ written)])
          else return some (e.operate .operation written)
        | p =>
          if p = .compare && e.form = .comparison then failure
          else
            let o ← symbol s
            let r ← g.rightOperand allowStruct p
            return some (e.operate (if p = .compare then .comparison else .operation) (o ++ r.tokens))) first

/-! ## Behind an operand -/

/-- the expressions of a call -/
def callArguments : Parser Tokens :=
  groupOf .parenthesis (commaList (g.expression true))

/-- the numbers that a literal with points between them stands for, and whether a point ends it -/
def fieldNumbers? (literal : String) : Option (Tokens × Bool) := do
  let parts := literal.splitOn "."
  let ends := parts.getLast? == some ""
  let numbers ← (if ends then parts.dropLast else parts).mapM fieldNumber?
  return ((numbers.map fun n => [Tree.literal n.repr]).intersperse [Declaration.sign '.'] |>.flatten, ends)

/-- the name, the call or the number behind a dot -/
def memberName : Parser Tokens := do
  if ← at? (atWord "await") then keyword "await"
  else if ← at? atNumber then fieldNumber
  else
    let name ← identTokens identifier
    if ← at? (atSign "::") then
      let turbofish ← angledArguments g
      return name ++ argumentsTokens turbofish ++ (← callArguments g)
    else return name ++ (← whenAt (atGroup .parenthesis) (callArguments g))

/-- a dot and what follows it; a number may hold further points -/
def member : Parser Tokens :=
  symbol "." ++ do
    match ← get with
    | .literal t :: r =>
      match fieldNumbers? t with
      | some (numbers, ends) =>
        set r
        if ends then return numbers ++ [Declaration.sign '.'] ++ (← memberName g) else return numbers
      | none => failure
    | _ => memberName g

/-- calls, members, indices and question marks behind an operand; a range takes no member -/
def trailers (first : Operand) : Parser Operand :=
  iterate (fun e => do
    let ts ← get
    if atGroup .parenthesis ts then return some (e.apply (← callArguments g))
    else if atGroup .bracket ts then return some (e.apply (← groupOf .bracket (g.expression true)))
    else if e.form != .range && atMember ts then return some (e.select (← member g))
    else if e.form != .range && atSign "?" ts then return some (e.select (← symbol "?"))
    else return none) first

/-! ## Operands -/

/-- a field of a struct expression -/
def fieldValue : Parser Tokens :=
  outerAttributeTokens g ++ do
    if ← at? atNumber then fieldNumber ++ symbol ":" ++ g.expression true
    else identTokens identifier ++ whenAt (atSign ":") (symbol ":" ++ g.expression true)

/-- the fields of a struct expression, and the value that gives the others after two dots -/
def fieldValues : Parser Tokens :=
  gather List.isEmpty (do
    if ← at? (atSign "..") then return (← symbol ".." ++ whenAt (fun ts => !ts.isEmpty) (g.expression true), true)
    else
      let f ← fieldValue g
      if ← at? List.isEmpty then return (f, true) else return (f ++ (← symbol ","), false))

/-- an operand that opens with a path -/
def pathOperand (allowStruct : Bool) : Parser Operand := do
  let p ← path g true
  let ts ← get
  if !p.qualified && atSign "!" ts && !atSign "!=" ts && p.isModule then
    let bang ← symbol "!"
    let isBraced ← at? (atGroup .brace)
    return .leaf (if isBraced then .bracedCall else .other) (p.tokens ++ bang ++ (← anyGroup))
  else if allowStruct && atGroup .brace ts then return .leaf .other (p.tokens ++ (← groupOf .brace (fieldValues g)))
  else return .leaf .other p.tokens

/-- a parameter of a closure -/
def closureParameter : Parser Tokens := do
  let attributes ← outerAttributeTokens g
  let p ← g.pattern
  if ← at? (atSign ":") then return attributes ++ p.tokens ++ (← symbol ":" ++ typeTokens g true)
  else return p.attributed attributes

/-- a closure; behind a result its body is a block -/
def closure (allowStruct : Bool) : Parser Tokens :=
  whenAt (atWord "for") (boundLifetimes g) ++ optional (keyword "const") ++ optional (keyword "static") ++
    optional (keyword "async") ++ optional (keyword "move") ++ symbol "|" ++
    separatedTokens "," (atSign "|") (closureParameter g) ++ symbol "|" ++ do
      if ← at? (atSign "->") then output g true ++ block g
      else g.expression allowStruct

/-- the condition of a branch or a loop -/
def condition : Parser Tokens :=
  g.expression false

/-- an `if` with its branches -/
def branches : Parser Tokens :=
  gather (fun _ => false) (do
    let one ← keyword "if" ++ condition g ++ block g
    if ← at? (atWord "else") then
      let e ← keyword "else"
      if ← at? (atWord "if") then return (one ++ e, false) else return (one ++ e ++ (← block g), true)
    else return (one, true))

/-- whether the parameters of a closure open behind `for` -/
def atClosureLifetimes (ts : Tokens) : Bool :=
  let second := next ts
  let third := next second
  atWord "for" ts && atSign "<" second && (atLifetime third || atSign ">" third)

/-- whether an expression with a block opens -/
def atBlockLike (ts : Tokens) : Bool :=
  atAnyWord ["if", "while", "loop", "match", "unsafe"] ts || (atWord "for" ts && !atClosureLifetimes ts) ||
    (atAnyWord ["try", "const"] ts && atGroup .brace (next ts)) || atGroup .brace ts || atLifetime ts

/-- an arm of a `match`, with its comma -/
def arm : Parser Tokens := do
  let front ← outerAttributeTokens g ++ alternativeTokens g ++ whenAt (atWord "if") (keyword "if" ++ g.expression true) ++
    symbol "=>"
  let body ← g.earlyExpression
  let comma ← if ← at? (fun ts => body.needsComma && !ts.isEmpty) then symbol "," else optional (symbol ",")
  return front ++ body.tokens ++ comma

/-- the arms of a `match` -/
def arms : Parser Tokens :=
  innerAttributeTokens g ++ repeatWhile (fun ts => !ts.isEmpty) (arm g)

/-- an expression with a block, maybe with a label -/
def blockLike : Parser Tokens := do
  let label ← whenAt atLifetime (lifetimeWritten ++ symbol ":")
  let ts ← get
  if atWord "while" ts then return label ++ (← keyword "while" ++ condition g ++ attributedBlock g)
  else if atWord "for" ts then
    return label ++ (← keyword "for" ++ alternativeTokens g ++ keyword "in" ++ condition g ++ attributedBlock g)
  else if atWord "loop" ts then return label ++ (← keyword "loop" ++ attributedBlock g)
  else if atGroup .brace ts then return label ++ (← attributedBlock g)
  else if !label.isEmpty then failure
  else if atWord "if" ts then branches g
  else if atWord "match" ts then keyword "match" ++ condition g ++ groupOf .brace (arms g)
  else if atWord "try" ts then keyword "try" ++ block g
  else (keyword "unsafe" <|> keyword "const") ++ attributedBlock g

/-- whether a closure opens -/
def atClosure (ts : Tokens) : Bool :=
  let second := next ts
  atSign "|" ts || atAnyWord ["move", "static"] ts || atClosureLifetimes ts ||
    (atWord "const" ts && !atGroup .brace second) ||
    (atWord "async" ts && (atSign "|" second || atWord "move" second))

/-- whether an asynchronous block opens -/
def atAsyncBlock (ts : Tokens) : Bool :=
  let second := next ts
  atWord "async" ts && (atGroup .brace second || (atWord "move" second && atGroup .brace (next second)))

/-- a parenthesised expression, or a tuple of expressions -/
def tupleOperand : Parser Tokens :=
  groupOf .parenthesis (commaList (g.expression true))

/-- an array by its elements, or by one of them and a length -/
def arrayOperand : Parser Tokens :=
  groupOf .bracket (do
    if ← at? List.isEmpty then nothing
    else
      let first ← g.expression true
      if ← at? (atSign ";") then return first ++ (← symbol ";" ++ g.expression true)
      else if ← at? List.isEmpty then return first
      else return first ++ (← symbol "," ++ commaList (g.expression true)))

/-- `break` with a label and a value; a label that stands in front of a loop is none of it -/
def breakOperand (allowStruct : Bool) : Parser Tokens :=
  keyword "break" ++ whenAt atLifetime (do
    if ← at? (fun ts => atSign ":" (next ts)) then failure else lifetimeWritten) ++
    whenAt (fun ts => atExpression ts && (allowStruct || !atGroup .brace ts)) (g.expression true)

/-- `let` as a condition; its value ends at an operator that binds looser than a comparison -/
def letOperand (allowStruct : Bool) : Parser Tokens := do
  let opening ← keyword "let" ++ alternativeTokens g ++ symbol "="
  let value ← chain g allowStruct .compare (← g.unary allowStruct)
  return opening ++ value.tokens

/-- an operand without what stands in front of it and behind it -/
def atom (allowStruct : Bool) : Parser Operand := do
  let ts ← get
  if atLiteral ts then return .leaf .other (← literal)
  else if atAsyncBlock ts then return .leaf .other (← keyword "async" ++ optional (keyword "move") ++ block g)
  else if atClosure ts then return .leaf .other (← closure g allowStruct)
  else if atBuiltin ts then return .leaf .raw (← builtin)
  else if atPath ts || (atWord "try" ts && atAnySign ["!", "::"] (next ts)) then pathOperand g allowStruct
  else if atGroup .parenthesis ts then return .leaf .other (← tupleOperand g)
  else if atGroup .bracket ts then return .leaf .other (← arrayOperand g)
  else if atWord "break" ts then return .leaf .other (← breakOperand g allowStruct)
  else if atWord "continue" ts then return .leaf .other (← keyword "continue" ++ optional lifetimeWritten)
  else if atAnyWord ["return", "yield"] ts then
    return .leaf .other (← (keyword "return" <|> keyword "yield") ++ whenAt atExpression (g.expression true))
  else if atWord "become" ts then return .leaf .raw (← verbatim (keyword "become" ++ g.expression true))
  else if atWord "let" ts then return .leaf .other (← letOperand g allowStruct)
  else if atBlockLike ts then return .leaf .block (← blockLike g)
  else if atSign ".." ts then return .leaf .range (← rangeTail g allowStruct)
  else if atWord "_" ts then return .leaf .other (← keyword "_")
  else failure

/-! ## Expressions -/

/-- what stands in front of the operand of a reference -/
def referenceModifier : Parser Tokens := do
  let ts ← get
  if atWord "raw" ts && atAnyWord ["mut", "const"] (next ts) then keyword "raw" ++ (keyword "mut" <|> keyword "const")
  else optional (keyword "mut")

/-- an operand with the signs in front of it and with what follows it; one that is kept as it is written keeps its
attributes so too -/
def unary (allowStruct : Bool) : Parser Operand := do
  let before ← get
  let attributes ← outerAttributeTokens g
  let ts ← get
  if atSign "&" ts then
    let opening ← symbol "&" ++ referenceModifier
    return .leaf .other (attributes ++ opening ++ (← g.unary allowStruct).tokens)
  else if atAnySign ["*", "!", "-"] ts then
    let opening ← symbol "*" <|> symbol "!" <|> symbol "-"
    return .leaf .other (attributes ++ opening ++ (← g.unary allowStruct).tokens)
  else
    let e ← trailers g (← atom g allowStruct)
    if e.form = .raw then return .leaf .raw (← takenSince before)
    else if e.form = .range && !attributes.isEmpty then failure
    else return e.attributed attributes

/-- the right operand of an operator: what binds tighter than the operator belongs to it -/
def rightOperand (allowStruct : Bool) (p : Precedence) : Parser Operand := do
  let first ← unary g allowStruct
  iterate (fun e => do
    let before ← get
    match joint? before with
    | none => return none
    | some (_, next) =>
      if p.rank < next.rank || (next = p && p = .assign) then
        let e ← chain g allowStruct next e
        if (← get).length = before.length then return none else return some e
      else return none) first

/-- an expression, with or without a struct at its end -/
def expression (allowStruct : Bool) : Parser Tokens := do
  return (← chain g allowStruct .lowest (← unary g allowStruct)).tokens

/-- an expression that ends as soon as it may: only a dot or a question mark goes on behind one with a block -/
def earlyExpression : Parser Operand := do
  let attributes ← outerAttributeTokens g
  if ← at? atBlockLike then
    let b := Operand.leaf .block (← blockLike g)
    if ← at? (fun ts => atMember ts || atSign "?" ts) then
      chain g true .lowest ((← trailers g b).attributed attributes)
    else return b.attributed attributes
  else chain g true .lowest ((← unary g true).attributed attributes)

end Loopback.Declaration.Grammar
