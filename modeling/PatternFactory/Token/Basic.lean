/-!
# Tokens

Source text is read as a sequence of token trees: words, punctuation characters, literals, and
delimited groups of further tokens.  `Tokens.text` writes a sequence back with one blank between
neighbours, except behind a punctuation character that is glued to the next one; this is the
spelling in which types and names are quoted in messages.
-/

namespace PatternFactory

/-- A place in a source text: the line and the column, both counted from 1, the column in
characters. -/
structure Pos where
  line : Nat
  column : Nat
  deriving DecidableEq, Repr, Inhabited

namespace Pos

/-- The beginning of a text. -/
def start : Pos := ⟨1, 1⟩

/-- The place behind `c`, when `c` stands at `p`. -/
def next (p : Pos) (c : Char) : Pos :=
  if c = '\n' then ⟨p.line + 1, 1⟩ else ⟨p.line, p.column + 1⟩

/-- The place behind the text `cs`. -/
def advance (p : Pos) (cs : List Char) : Pos := cs.foldl next p

end Pos

/-- The brackets that enclose a group of tokens. -/
inductive Delimiter where
  | paren
  | bracket
  | brace
  deriving DecidableEq, Repr, Inhabited

namespace Delimiter

/-- The opening bracket. -/
def opening : Delimiter → Char
  | paren => '('
  | bracket => '['
  | brace => '\x7b'

/-- The closing bracket. -/
def closing : Delimiter → Char
  | paren => ')'
  | bracket => ']'
  | brace => '\x7d'

/-- The delimiter that `c` opens. -/
def ofOpening? : Char → Option Delimiter
  | '(' => some paren
  | '[' => some bracket
  | '\x7b' => some brace
  | _ => none

/-- The delimiter that `c` closes. -/
def ofClosing? : Char → Option Delimiter
  | ')' => some paren
  | ']' => some bracket
  | '\x7d' => some brace
  | _ => none

end Delimiter

/-- A token tree.  A punctuation character is `joint` when the next token is punctuation that
follows without a gap, so that the two may spell one operator. -/
inductive Token where
  | word (text : String) (pos : Pos)
  | punct (char : Char) (joint : Bool) (pos : Pos)
  | literal (text : String) (pos : Pos)
  | group (delim : Delimiter) (body : List Token) (opening closing : Pos)
  deriving Repr, Inhabited

namespace Token

/-- Where the token begins. -/
def pos : Token → Pos
  | word _ p => p
  | punct _ _ p => p
  | literal _ p => p
  | group _ _ p _ => p

/-- A word without a place of its own, for tokens that are not read from a text. -/
def ofWord (text : String) : Token := .word text .start

/-- The tokens of an operator: one punctuation character each, all but the last glued to the
next. -/
def ofOperator (op : String) : List Token :=
  go op.toList
where
  go : List Char → List Token
    | [] => []
    | [c] => [.punct c false .start]
    | c :: cs => .punct c true .start :: go cs

/-- A literal without a place of its own. -/
def ofLiteral (text : String) : Token := .literal text .start

/-- A group without a place of its own. -/
def ofGroup (delim : Delimiter) (body : List Token) : Token := .group delim body .start .start

/-- A lifetime such as `'a`, given by its name without the tick. -/
def ofLifetime (name : String) : List Token := [.punct '\'' true .start, .word name .start]

end Token

mutual

/-- The token without the places that it was read from. -/
def Token.unplaced : Token → Token
  | .word s _ => .ofWord s
  | .punct c joint _ => .punct c joint .start
  | .literal s _ => .ofLiteral s
  | .group delim body _ _ => .ofGroup delim (Tokens.unplaced body)

/-- Each of some tokens without the places that it was read from. -/
def Tokens.unplaced : List Token → List Token
  | [] => []
  | t :: ts => t.unplaced :: Tokens.unplaced ts

end

mutual

/-- The spelling of one token.  Braces keep a blank inside, the other brackets do not. -/
def Token.text : Token → String
  | .word s _ => s
  | .punct c _ _ => c.toString
  | .literal s _ => s
  | .group .paren body _ _ => "(" ++ Tokens.text body ++ ")"
  | .group .bracket body _ _ => "[" ++ Tokens.text body ++ "]"
  | .group .brace [] _ _ => "\x7b \x7d"
  | .group .brace (t :: body) _ _ => "\x7b " ++ Tokens.text (t :: body) ++ " \x7d"

/-- The spelling of a token sequence: blanks between neighbours that are not glued together. -/
def Tokens.text : List Token → String
  | [] => ""
  | [t] => t.text
  | .punct c true p :: t :: rest => (Token.punct c true p).text ++ Tokens.text (t :: rest)
  | t :: u :: rest => t.text ++ " " ++ Tokens.text (u :: rest)

end

mutual

/-- The number of tokens in a token tree, the group itself included. -/
def Token.size : Token → Nat
  | .group _ body _ _ => Tokens.size body + 1
  | _ => 1

/-- The number of tokens in a sequence, those inside of groups included. -/
def Tokens.size : List Token → Nat
  | [] => 0
  | t :: ts => t.size + Tokens.size ts

end

/-- The words that are reserved and so are no identifiers. -/
def reservedWords : List String := [
  "_", "abstract", "as", "async", "await", "become", "box", "break", "const", "continue",
  "crate", "do", "dyn", "else", "enum", "extern", "false", "final", "fn", "for", "if", "impl",
  "in", "let", "loop", "macro", "match", "mod", "move", "mut", "override", "priv", "pub", "ref",
  "return", "Self", "self", "static", "struct", "super", "trait", "true", "try", "type", "typeof",
  "unsafe", "unsized", "use", "virtual", "where", "while", "yield"]

/-- May the word be used as an identifier? -/
def isIdentifierWord (s : String) : Bool := !reservedWords.contains s

end PatternFactory
