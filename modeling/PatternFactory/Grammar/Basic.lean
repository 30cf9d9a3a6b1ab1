import PatternFactory.Grammar.Reader
import PatternFactory.Grammar.Tree

/-!
# The syntactic classes

Types, expressions, patterns, blocks and items contain one another.  A `Grammar` is a record of
readers for them, and the rules of each class take such a record for what they contain.
`Grammar.ofDepth` closes the circle: every descent uses up one level, and since a descent passes at
least one token after a few levels, the number of tokens bounds the depth that is needed.
-/

namespace PatternFactory

/-- Which kinds of bounds are allowed beside traits and lifetimes. -/
structure BoundRule where
  /-- The captured parameters `use<…>`. -/
  captures : Bool
  /-- Traits marked `const` or `[const]`. -/
  const : Bool

/-- May a brace behind a path begin a struct expression?  Not in the head of a condition or a
loop. -/
inductive BraceRule where
  | allowStruct
  | noStruct
  deriving DecidableEq

/-- How tightly the operators of an expression bind, from the loosest to the tightest. -/
inductive Precedence where
  | lowest | assign | range | or | and | «let» | compare | bitOr | bitXor | bitAnd | shift | sum
  | product | cast
  deriving DecidableEq

namespace Precedence

/-- The rank of a precedence. -/
def rank : Precedence → Nat
  | lowest => 0
  | assign => 1
  | range => 2
  | or => 3
  | and => 4
  | «let» => 5
  | compare => 6
  | bitOr => 7
  | bitXor => 8
  | bitAnd => 9
  | shift => 10
  | sum => 11
  | product => 12
  | cast => 13

end Precedence

/-- Readers of the classes that contain one another. -/
structure Grammar where
  /-- A type; the flag allows bounds joined by `+`. -/
  ty : Bool → Reader Ty
  /-- A bound of a type. -/
  bound : BoundRule → Reader Bound
  /-- An expression. -/
  expr : BraceRule → Reader Code
  /-- An expression that ends early if it ends with a block, as in statements and match arms. -/
  blockLikeExpr : Reader Code
  /-- An operand with its prefix operators. -/
  operand : BraceRule → Reader Code
  /-- Goes on with the operators behind an expression, down to a precedence. -/
  operators : BraceRule → Precedence → Code → Reader Code
  /-- A pattern without alternatives. -/
  pattern : Reader Code
  /-- The statements up to the end of the enclosing braces. -/
  statements : Reader (List Part)
  /-- The fields of a struct in braces. -/
  namedFields : Reader Part
  /-- An item. -/
  item : Reader Item

namespace Grammar

/-- The grammar of depth zero: every descent is refused. -/
def exhausted : Grammar where
  ty _ := Reader.fail "nesting too deep"
  bound _ := Reader.fail "nesting too deep"
  expr _ := Reader.fail "nesting too deep"
  blockLikeExpr := Reader.fail "nesting too deep"
  operand _ := Reader.fail "nesting too deep"
  operators _ _ _ := Reader.fail "nesting too deep"
  pattern := Reader.fail "nesting too deep"
  statements := Reader.fail "nesting too deep"
  namedFields := Reader.fail "nesting too deep"
  item := Reader.fail "nesting too deep"

/-- A mark as a part of code. -/
def mark (text : String) : List Part := [.mark text]

/-- A mark that may be missing. -/
def markIf (present : Bool) (text : String) : List Part := if present then [.mark text] else []

/-- Parts with commas between them, and one at the end if `trailing`. -/
def withCommas (items : List (List Part)) (trailing : Bool) : List Part :=
  match items with
  | [] => []
  | [a] => a ++ markIf trailing ","
  | a :: rest => a ++ [.mark ","] ++ withCommas rest trailing

/-- Pieces of code with commas between them. -/
def codeList (items : List Code) (trailing : Bool) : List Part :=
  withCommas (items.map fun c => [.code c]) trailing

/-- The tokens between an earlier state of a reader and now. -/
def tokensSince (before : List Token) : Reader (List Token) := do
  return before.take (before.length - (← Reader.rest).length)

end Grammar

end PatternFactory
