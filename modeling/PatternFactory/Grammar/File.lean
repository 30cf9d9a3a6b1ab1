import PatternFactory.Grammar.Item
import PatternFactory.Grammar.Statement

/-!
# Whole texts

`Grammar.ofDepth` ties the readers of the syntactic classes together.  `File.ofText` reads a source
text: a byte order mark and an interpreter line are skipped, then come inner attributes and items.
-/

namespace PatternFactory

namespace Grammar

/-- The readers whose descents go into the readers of `inner`. -/
def above (inner : Unit → Grammar) : Grammar where
  ty allowPlus := fun s => (inner ()).readTy allowPlus s
  bound rule := fun s => (inner ()).readBound rule s
  expr braces := fun s => (inner ()).readExpr braces s
  blockLikeExpr := fun s => (inner ()).readBlockLikeExpr s
  operand braces := fun s => (inner ()).readOperand braces s
  operators braces prec left := fun s => (inner ()).readOperators braces prec left s
  pattern := fun s => (inner ()).readPattern s
  statements := fun s => (inner ()).readStatements s
  namedFields := fun s => (inner ()).readNamedFields s
  item := fun s => (inner ()).readItem s

/-- The grammar in which at most `n` descents are nested. -/
def ofDepth : Nat → Grammar
  | 0 => exhausted
  | n + 1 => above fun _ => ofDepth n

/-- A depth that suffices for the tokens: no more than eight descents come between two tokens. -/
def depthFor (tokens : List Token) : Nat := 8 * (Tokens.size tokens + 1)

/-- The grammar for reading the tokens. -/
def forTokens (tokens : List Token) : Grammar := ofDepth (depthFor tokens)

end Grammar

/-- Runs a reader that needs the grammar on a whole token sequence. -/
def Tokens.read {α : Type} (tokens : List Token) (p : Grammar → Reader α) :
    Except SyntaxError α :=
  (p (Grammar.forTokens tokens)).run tokens .start

/-- Runs a reader that needs the grammar on a whole text. -/
def readText {α : Type} (text : String) (p : Grammar → Reader α) : Except SyntaxError α :=
  match Tokens.ofText text with
  | .ok tokens => Tokens.read tokens p
  | .error pos => .error ⟨pos, .notTokens⟩

/-- Is the text one identifier?  Blanks and comments around it do not matter. -/
def isIdentifier (text : String) : Bool :=
  (readText text fun _ => Reader.ident).isOk

namespace File

/-- The items of a file. -/
def items (g : Grammar) : Reader (List Item) := do
  let _ ← g.innerAttrs
  Reader.manyToEnd g.item

/-- Does `#!` begin an inner attribute, and not an interpreter line? -/
def beginsAttribute (behind : List Char) : Bool :=
  (Lexeme.skipBlanks behind).head? == some '['

/-- The text without a byte order mark at its front. -/
def withoutMark (cs : List Char) : List Char :=
  match cs with
  | '\uFEFF' :: rest => rest
  | _ => cs

/-- The text without an interpreter line; the end of that line stays. -/
def withoutInterpreter (cs : List Char) : List Char :=
  match cs with
  | '#' :: '!' :: rest =>
    if beginsAttribute rest then cs else rest.dropWhile (· ≠ '\n')
  | _ => cs

/-- Reads the items of a source text. -/
def ofText (text : String) : Except SyntaxError (List Item) :=
  readText (String.ofList (withoutInterpreter (withoutMark text.toList))) items

end File

end PatternFactory
