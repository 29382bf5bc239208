/-!
# Templates

A template is a list of blocks. Blocks write whole lines; conditions and loops around them leave no
trace of their own in the text.
-/

namespace Wirework.Template

/-- What can be done with a value inside an expression. -/
inductive Filter where
  | snakeIdent
  | pascal
  | stringLiteral
  | lower
  | size
  | fieldType
  | fieldDefault
  deriving DecidableEq

inductive Expr where
  | var (name : String)
  | get (e : Expr) (name : String)
  | text (s : String)
  | int (n : Int)
  | filtered (f : Filter) (e : Expr)
  | equals (a b : Expr)
  | within (item container : Expr)
  | not (e : Expr)
  | both (a b : Expr)
  /-- The second expression if the first one holds, the third one otherwise. -/
  | choose (test yes no : Expr)

inductive Piece where
  | text (s : String)
  | put (e : Expr)

instance : Coe String Piece := ⟨.text⟩

instance : Coe Expr Piece := ⟨.put⟩

inductive Block where
  /-- Lines as they stand. -/
  | text (lines : List String)
  /-- One line with values in it. -/
  | line (pieces : List Piece)
  | choose (test : Expr) (yes no : List Block)
  | each (name : String) (items : Expr) (body : List Block)
  /-- A loop over pairs. -/
  | eachPair (first second : String) (items : Expr) (body : List Block)

/-- Blocks that stand only if a test holds. -/
def Block.when (test : Expr) (body : List Block) : Block := .choose test body []

end Wirework.Template

namespace Wirework

/-- A text with places for values. -/
abbrev Template := List Template.Block

end Wirework
