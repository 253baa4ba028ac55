/-
The grammar of items.

An item that has a form of its own is written back in that form, with its attributes in front. Some items are read but
have none, such as a function without a body or a constant without a value: they are kept as they are written, attributes
included.
- `traitDecl`: a trait, with the items that may be methods of a service;
- `itemAfter`: an item behind its attributes.
-/
import Loopback.Declaration.Grammar.Function

namespace Loopback.Declaration.Grammar

open Tokens

variable (g : Nested)

/-- what an item is written back as behind its attributes; none if it is kept as it is written -/
abbrev Written := Option Tokens

/-- an item with its attributes, which were read since `before` -/
def finish (before attributes : Tokens) (form : Written) : Parser Tokens := do
  match form with
  | some w => return attributes ++ w
  | none => takenSince before

/-- keep an item as it is written if a condition holds -/
def keptIf (condition : Bool) (w : Tokens) : Written :=
  if condition then none else some w

/-! ## Calls that expand -/

/-- whether a path opens that a call that expands to items may have -/
def atItemCall (ts : Tokens) : Bool :=
  atIdent ts || atAnyWord ["self", "super", "crate"] ts || atSign "::" ts

/-- a call that expands to items; a semicolon ends one without braces -/
def itemCall (named : Bool) : Parser Tokens := do
  let p ← modulePath
  let bang ← symbol "!"
  let name ← if named then whenAt (fun ts => atIdent ts || atWord "try" ts) (identTokens anyIdent) else nothing
  let isBraced ← at? (atGroup .brace)
  let content ← anyGroup
  return p.tokens ++ bang ++ name ++ content ++ (← if isBraced then nothing else symbol ";")

/-! ## Values and types -/

/-- a name, or `_` -/
def nameOrUnderscore : Parser Tokens :=
  keyword "_" <|> identTokens identifier

/-- a constant behind what stands in front of it, and whether it has a value and no generics -/
def constantItem : Parser (Tokens × Bool × Bool) := do
  let opening ← keyword "const" ++ nameOrUnderscore
  let hasParameters ← at? (atSign "<")
  let generic ← parameters g
  let type ← symbol ":" ++ typeTokens g true
  let value ← whenAt (atSign "=") (symbol "=" ++ g.expression true)
  let constrained ← constraints g
  let generics : Generics := ⟨generic, constrained⟩
  return (opening ++ generics.parameterTokens ++ type ++ value ++ generics.constraintTokens ++ (← symbol ";"),
    !value.isEmpty, !hasParameters && constrained.isNone)

/-- where the constraints of a type item may stand -/
inductive ConstraintPlace where
  | beforeValue
  | afterValue
  | either

/-- the parts of a type item -/
structure TypeItem where
  name : Ident
  generics : Generics
  /-- whether there is a colon -/
  hasColon : Bool
  bounds : Tokens
  /-- the equals sign and the type -/
  value : Tokens

/-- a type item up to its semicolon -/
def typeItem (place : ConstraintPlace) : Parser TypeItem := do
  let _ ← keyword "type"
  let name ← identifier
  let generic ← parameters g
  let hasColon ← at? (atSign ":")
  let bounds ← whenAt (atSign ":") (do
    let _ ← symbol ":"
    separatedTokens "+" (fun ts => atWord "where" ts || atSign "=" ts || atSign ";" ts) (boundTokens g .parameter))
  let before ← match place with
    | .afterValue => pure none
    | _ => constraints g
  let value ← whenAt (atSign "=") (symbol "=" ++ typeTokens g true)
  let after ← match place, before with
    | .beforeValue, _ => pure none
    | _, some _ => pure none
    | _, none => constraints g
  let _ ← symbol ";"
  return ⟨name, ⟨generic, before.or after⟩, hasColon, bounds, value⟩

namespace TypeItem

/-- the name and the parameters of a type item -/
def opening (t : TypeItem) : Tokens :=
  [word "type", .ident t.name] ++ t.generics.parameterTokens

/-- a type item whose constraints stand in front of the type -/
def constrainedFirst (t : TypeItem) : Tokens :=
  t.opening ++ t.generics.constraintTokens ++ t.value ++ [Declaration.sign ';']

/-- a type item whose constraints stand behind the type -/
def constrainedLast (t : TypeItem) : Tokens :=
  t.opening ++ (if t.bounds.isEmpty then [] else Declaration.sign ':' :: t.bounds) ++ t.value ++
    t.generics.constraintTokens ++ [Declaration.sign ';']

end TypeItem

/-- a static item; it needs a type and a value -/
def staticItem : Parser Written := do
  let opening ← keyword "static" ++ optional (keyword "mut") ++ identTokens identifier
  if ← at? (atSign "=") then
    let _ ← symbol "=" ++ g.expression true ++ symbol ";"
    return none
  else
    let type ← symbol ":" ++ typeTokens g true
    if ← at? (atSign ";") then
      let _ ← symbol ";"
      return none
    else return some (opening ++ type ++ (← symbol "=" ++ g.expression true ++ symbol ";"))

/-! ## Imports -/

/-- `as` and a name, if there is one -/
def newName : Parser Tokens :=
  whenAt (atWord "as") (keyword "as" ++ nameOrUnderscore)

/-- an external crate -/
def externCrate : Parser Tokens :=
  keyword "extern" ++ keyword "crate" ++ (keyword "self" <|> identTokens identifier) ++ newName ++ symbol ";"

/-- what stands between the braces of an import, and whether none of it starts at the root; two colons in front of a part
say that it does, where no path leads to the braces -/
def useGroup (tree : Bool → Parser Bool) (atRoot : Bool) : Parser Bool := do
  let (l, _) ← separated "," List.isEmpty (do
    let colons ← if atRoot then optional (symbol "::") else nothing
    return (← tree (atRoot && colons.isEmpty)) && colons.isEmpty)
  return l.all id

/-- the tree of an import, at most so deep, and whether no part of it in braces starts at the root -/
def useTree : Nat → Bool → Parser Bool
  | 0, _ => failure
  | n + 1, atRoot => do
    let ts ← get
    if atIdent ts || atAnyWord ["self", "super", "crate", "try"] ts then
      let _ ← anyIdent
      if ← at? (atSign "::") then
        let _ ← symbol "::"
        useTree n false
      else
        let _ ← newName
        return true
    else if atSign "*" ts then
      let _ ← symbol "*"
      return true
    else within .brace (useGroup (useTree n) atRoot)

/-- an import -/
def useItem : Parser Written := do
  let before ← get
  let _ ← keyword "use"
  let colons ← optional (symbol "::")
  let plain ← useTree (Tokens.size before) colons.isEmpty
  let _ ← symbol ";"
  return keptIf (!plain) (← takenSince before)

/-! ## Data -/

/-- the fields of an anonymous struct inside a struct -/
def innerFields (field : Parser Tokens) : Parser Tokens :=
  verbatim (identTokens anyIdent ++ groupOf .brace (commaList field))

/-- a field with a name, at most so deep; one without may hold further fields -/
def namedField : Nat → Parser Tokens
  | 0 => failure
  | n + 1 => outerAttributeTokens g ++ visibility ++ do
    let isUnnamed ← at? (atWord "_")
    let opening ← nameOrUnderscore ++ symbol ":"
    let ts ← get
    if isUnnamed && (atWord "struct" ts || (atWord "union" ts && atGroup .brace (next ts))) then
      return opening ++ (← innerFields (namedField n))
    else return opening ++ (← typeTokens g true)

/-- fields in braces -/
def namedFields : Parser Tokens := do
  let n := Tokens.size (← get)
  groupOf .brace (commaList (namedField g n))

/-- fields in parentheses -/
def unnamedFields : Parser Tokens :=
  groupOf .parenthesis (commaList (outerAttributeTokens g ++ visibility ++ typeTokens g true))

/-- constraints as they are written back: an empty `where` vanishes -/
def constraintsWritten : Parser Tokens := do
  return (Generics.mk [] (← constraints g)).constraintTokens

/-- parameters as they are written back: empty angle brackets vanish -/
def parametersWritten : Parser Tokens := do
  return (Generics.mk (← parameters g) none).parameterTokens

/-- a struct -/
def structItem : Parser Tokens :=
  keyword "struct" ++ identTokens identifier ++ parametersWritten g ++ do
    if ← at? (atGroup .parenthesis) then unnamedFields g ++ constraintsWritten g ++ symbol ";"
    else constraintsWritten g ++ do
      if ← at? (atGroup .brace) then namedFields g else symbol ";"

/-- a variant of an enum; its visibility vanishes -/
def variant : Parser Tokens := do
  let attributes ← outerAttributeTokens g
  let _ ← visibility
  let name ← identTokens identifier
  let fields ← if ← at? (atGroup .brace) then namedFields g else whenAt (atGroup .parenthesis) (unnamedFields g)
  return attributes ++ name ++ fields ++ (← whenAt (atSign "=") (symbol "=" ++ g.expression true))

/-- an enum -/
def enumItem : Parser Tokens :=
  keyword "enum" ++ identTokens identifier ++ parametersWritten g ++ constraintsWritten g ++
    groupOf .brace (commaList (variant g))

/-- a union -/
def unionItem : Parser Tokens :=
  keyword "union" ++ identTokens identifier ++ parametersWritten g ++ constraintsWritten g ++ namedFields g

/-! ## Groups of items -/

/-- attributes and items in braces -/
def itemGroup (one : Parser Tokens) : Parser Tokens :=
  groupOf .brace (innerAttributeTokens g ++ repeatWhile (fun ts => !ts.isEmpty) one)

/-- a module -/
def moduleItem : Parser Tokens :=
  optional (keyword "unsafe") ++ keyword "mod" ++ (keyword "try" <|> identTokens identifier) ++ do
    if ← at? (atSign ";") then symbol ";" else itemGroup g g.item

/-! ### Foreign items -/

/-- a function of a foreign module; one with a body, or said to be safe, is kept as it is written -/
def foreignFunction : Parser Written := do
  let (m, isSafe) ← signature g true
  if ← at? (atGroup .brace) then
    let _ ← withFunctionBody g m
    return none
  else
    let _ ← symbol ";"
    return keptIf isSafe m.tokens

/-- a static item of a foreign module; one with a value, or said to be safe or unsafe, is kept as it is written -/
def foreignStatic : Parser Written := do
  let safety ← optional (keyword "unsafe" <|> keyword "safe")
  let w ← keyword "static" ++ optional (keyword "mut") ++ identTokens identifier ++ symbol ":" ++ typeTokens g true
  let value ← whenAt (atSign "=") (symbol "=" ++ g.expression true)
  return keptIf (!safety.isEmpty || !value.isEmpty) (w ++ (← symbol ";"))

/-- an item of a foreign module -/
def foreignItem : Parser Tokens := do
  let before ← get
  let attributes ← outerAttributeTokens g
  let visible ← visibility
  let ts ← get
  let form ←
    if atFunction true ts then foreignFunction g
    else if atWord "static" ts || (atAnyWord ["unsafe", "safe"] ts && atWord "static" (next ts)) then foreignStatic g
    else if atWord "type" ts then do
      let t ← typeItem g .either
      pure (keptIf (t.hasColon || !t.value.isEmpty) t.constrainedLast)
    else if visible.isEmpty && atItemCall ts then some <$> itemCall false
    else failure
  finish before attributes (form.map (visible ++ ·))

/-- a foreign module -/
def foreignModule : Parser Tokens :=
  optional (keyword "unsafe") ++ abi ++ itemGroup g (foreignItem g)

/-! ### Traits -/

/-- an item of a trait after its attributes; none if it is kept as it is written -/
def plainTraitItem (attributes : List Attribute) (isBare : Bool) : Parser (Option TraitItem) := do
  let ts ← get
  let other (w : Tokens) := TraitItem.other (Attribute.outer attributes ++ w)
  if atFunction false ts then return some (.method (← method g attributes))
  else if atWord "const" ts then
    let (w, _, isPlain) ← constantItem g
    return (keptIf (!isPlain) w).map other
  else if atWord "type" ts then return some (other (← typeItem g .afterValue).constrainedLast)
  else if isBare && atItemCall ts then return some (other (← itemCall false))
  else failure

/-- an item of a trait; one with a visibility or a `default` is no method of it -/
def traitItem : Parser TraitItem := do
  let before ← get
  let attributes ← outerAttributes g
  let isBare := (← visibility ++ optional (keyword "default")).isEmpty
  match ← plainTraitItem g attributes isBare with
  | some i => if isBare then return i else return .other (← takenSince before)
  | none => return .other (← takenSince before)

/-- the bounds of a trait after its colon, and its constraints and items -/
def traitRest (t : TraitDecl) : Parser TraitDecl := do
  let bounds ← whenAt (atSign ":") (do
    let _ ← symbol ":"
    separatedTokens "+" (fun ts => atWord "where" ts || atGroup .brace ts) (boundTokens g .parameter))
  let constrained ← constraints g
  let (inner, items) ← within .brace (do
    let inner ← innerAttributes g
    let items ← iterate (fun l => do
      if ← at? List.isEmpty then return none else return some (l ++ [← traitItem g])) []
    return (inner, items))
  return { t with
    attributes := t.attributes ++ inner
    generics := { t.generics with constraints := constrained }
    bounds
    items }

/-- a trait up to its parameters -/
def traitOpening (attributes : List Attribute) (visible : Tokens) : Parser TraitDecl := do
  let isUnsafe ← optional (keyword "unsafe")
  let isAuto ← optional (keyword "auto")
  let _ ← keyword "trait"
  let name ← identifier
  let generic ← parameters g
  return ⟨attributes, visible, !isUnsafe.isEmpty, !isAuto.isEmpty, name, ⟨generic, none⟩, [], []⟩

/-- a trait with its attributes -/
def traitDecl : Parser TraitDecl := do
  let outer ← outerAttributes g
  let visible ← visibility
  traitRest g (← traitOpening g outer visible)

/-- a trait, or another name for bounds, as an item -/
def traitItemDecl (visible : Tokens) : Parser Tokens := do
  let mayRename ← at? (atWord "trait")
  let t ← traitOpening g [] visible
  if mayRename && (← at? (atSign "=")) then
    let eq ← symbol "="
    let bounds ← separatedTokens "+" (fun ts => atWord "where" ts || atSign ";" ts) (boundTokens g .parameter)
    return visible ++ [word "trait", .ident t.name] ++ t.generics.parameterTokens ++ eq ++ bounds ++
      (← constraintsWritten g ++ symbol ";")
  else return (← traitRest g t).tokens

/-! ### Implementations -/

/-- a function of an implementation; one without a body is kept as it is written -/
def implFunction : Parser Written := do
  let (m, _) ← signature g false
  if ← at? (atSign ";") then
    let _ ← symbol ";"
    return none
  else return some (← withFunctionBody g m).tokens

/-- an item of an implementation -/
def implItem : Parser Tokens := do
  let before ← get
  let attributes ← outerAttributeTokens g
  let visible ← visibility
  let isDefault ← whenAt (fun ts => !atSign "!" (next ts)) (optional (keyword "default"))
  let ts ← get
  let form ←
    if atFunction false ts then implFunction g
    else if atWord "const" ts then do
      let (w, hasValue, isPlain) ← constantItem g
      pure (keptIf (!hasValue || !isPlain) w)
    else if atWord "type" ts then do
      let t ← typeItem g .afterValue
      pure (keptIf (t.hasColon || t.value.isEmpty) t.constrainedLast)
    else if visible.isEmpty && isDefault.isEmpty && atItemCall ts then some <$> itemCall false
    else failure
  finish before attributes (form.map (visible ++ isDefault ++ ·))

/-- an implementation; one that is visible, constant, or of what is no path is kept as it is written -/
def implementation (isVisible : Bool) : Parser Written := do
  let opening ← optional (keyword "default") ++ optional (keyword "unsafe") ++ keyword "impl"
  let generic ← whenAt atParameters (parametersWritten g)
  let constness ← whenAt (fun ts => atWord "const" ts || (atSign "?" ts && atWord "const" (next ts)))
    (optional (symbol "?") ++ keyword "const")
  let polarity ← whenAt (fun ts => atSign "!" ts && !atGroup .brace (next ts)) (symbol "!")
  let first ← g.type true
  let isPath := match first with
    | .path false _ _ _ => true
    | _ => false
  let isFor ← at? (atWord "for")
  if !isFor && !polarity.isEmpty then failure
  else
    let target ← whenAt (atWord "for") (keyword "for" ++ typeTokens g true)
    let constrained ← constraintsWritten g
    let items ← itemGroup g (implItem g)
    return keptIf (isVisible || !constness.isEmpty || (isFor && !isPath))
      (opening ++ generic ++ polarity ++ first.tokens ++ target ++ constrained ++ items)

/-! ## Items -/

/-- a function as an item; one without a body is kept as it is written -/
def functionItem : Parser Written := do
  let (m, _) ← signature g false
  if ← at? (atSign ";") then
    let _ ← symbol ";"
    return none
  else return some (← withFunctionBody g m).tokens

/-- a definition of what expands, which is kept as it is written -/
def expanderItem : Parser Written := do
  let _ ← anyIdent
  let _ ← identifier
  let _ ← whenAt (atGroup .parenthesis) anyGroup
  if ← at? (atGroup .brace) then
    let _ ← anyGroup
    return none
  else failure

/-- whether a foreign module opens at `extern` -/
def atForeignModule (ts : Tokens) : Bool :=
  let second := next ts
  match second with
  | .literal t :: r => (stringValue? t).isSome && atGroup .brace r
  | _ => atGroup .brace second

/-- an item behind its attributes and its visibility -/
def bareItem (visible : Tokens) : Parser Written := do
  let ts ← get
  let second := next ts
  let shown (p : Parser Tokens) : Parser Written := do return some (visible ++ (← p))
  let visibleForm (p : Parser Written) : Parser Written := do return (← p).map (visible ++ ·)
  if atFunction false ts then visibleForm (functionItem g)
  else if atWord "extern" ts then
    if atWord "crate" second then shown externCrate
    else if visible.isEmpty && atForeignModule ts then shown (foreignModule g)
    else failure
  else if atWord "use" ts then visibleForm useItem
  else if atWord "static" ts then visibleForm (staticItem g)
  else if atWord "const" ts then
    let (w, hasValue, isPlain) ← constantItem g
    return keptIf (!hasValue || !isPlain) (visible ++ w)
  else if atWord "unsafe" ts then
    if atWord "trait" second || (atWord "auto" second && atWord "trait" (next second)) then
      return some (← traitItemDecl g visible)
    else if atWord "impl" second then implementation g (!visible.isEmpty)
    else if atWord "extern" second then if visible.isEmpty then shown (foreignModule g) else failure
    else shown (moduleItem g)
  else if atWord "mod" ts then shown (moduleItem g)
  else if atWord "type" ts then
    let t ← typeItem g .beforeValue
    return keptIf (t.hasColon || t.value.isEmpty) (visible ++ t.constrainedFirst)
  else if atWord "struct" ts then shown (structItem g)
  else if atWord "enum" ts then shown (enumItem g)
  else if atWord "union" ts && atIdent second then shown (unionItem g)
  else if atWord "trait" ts || (atWord "auto" ts && atWord "trait" second) then return some (← traitItemDecl g visible)
  else if atWord "impl" ts || (atWord "default" ts && !atSign "!" second) then implementation g (!visible.isEmpty)
  else if atWord "macro" ts then expanderItem
  else if visible.isEmpty && atItemCall ts then some <$> itemCall true
  else failure

/-- an item behind its attributes, which were read since `before` -/
def itemAfter (before attributes : Tokens) : Parser Tokens := do
  let form ← bareItem g (← visibility)
  finish before attributes form

/-- an item with its attributes -/
def item : Parser Tokens := do
  let before ← get
  let attributes ← outerAttributeTokens g
  itemAfter g before attributes

end Loopback.Declaration.Grammar
