/-
Code templates.

A template is a text of tokens in which `$name` is a hole. `code` reads it and puts the tokens of each hole in its place.
-/
import Loopback.Declaration.Lexer
import Loopback.Declaration.Trait

namespace Loopback.Declaration

/-- the tokens of each hole -/
abbrev Holes := List (String × Tokens)

mutual

/-- put the tokens of the holes into a tree -/
def fillTree (holes : Holes) : Tree → Tree
  | .group d content => .group d (fill holes content)
  | t => t

/-- put the tokens of the holes into a run of trees -/
def fill (holes : Holes) : List Tree → List Tree
  | .punct '$' _ :: .ident i :: r => (holes.lookup i.name).getD [] ++ fill holes r
  | t :: r => fillTree holes t :: fill holes r
  | [] => []

end

/-- the tokens of a template -/
def code (holes : Holes) (template : String) : Tokens :=
  fill holes ((Tokens.ofText? template).getD [])

/-- the tokens of a text without holes -/
def plainCode (text : String) : Tokens :=
  code [] text

/-- a head and a body in braces -/
def withBody (head body : Tokens) : Tokens :=
  head ++ [braced body]

/-- the attribute that documents what follows it -/
def documented (text : String) : Tokens :=
  [sign '#', bracketed [word "doc", sign '=', .literal ("r\"" ++ text ++ "\"")]]

/-- items with a comma between any two -/
def listed (l : List Tokens) : Tokens :=
  commaSeparated false l

/-- a truth value as a token -/
def truth (b : Bool) : Tokens :=
  [word (if b then "true" else "false")]

end Loopback.Declaration
