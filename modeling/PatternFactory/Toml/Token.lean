/-!
# The tokens of a configuration file

A configuration file is cut into tokens without gaps: punctuation, blanks, comments, line ends,
quoted texts and bare words.  A quoted text that is not closed reaches to the end of its line, or,
if it may span lines, to the end of the file; what is wrong with it is found when it is read.
-/

namespace PatternFactory

namespace Toml

/-- The bytes of a text from `start` up to `stop`. -/
structure Span where
  start : Nat
  stop : Nat
  deriving DecidableEq, Repr, Inhabited

namespace Span

/-- The place `pos`, with nothing in it. -/
def point (pos : Nat) : Span := ⟨pos, pos⟩

end Span

/-- The kinds of quoted texts. -/
inductive Quote where
  /-- Between double quotes; it may hold escapes. -/
  | basic
  /-- Between single quotes. -/
  | literal
  /-- Between three double quotes; it may hold escapes and line ends. -/
  | basicBlock
  /-- Between three single quotes; it may hold line ends. -/
  | literalBlock
  deriving DecidableEq, Repr

namespace Quote

/-- The character that the quotes consist of. -/
def mark : Quote → Char
  | basic => '"'
  | literal => '\''
  | basicBlock => '"'
  | literalBlock => '\''

/-- May the text span lines? -/
def isBlock : Quote → Bool
  | basic => false
  | literal => false
  | basicBlock => true
  | literalBlock => true

/-- May the text hold escapes? -/
def hasEscapes : Quote → Bool
  | basic => true
  | literal => false
  | basicBlock => true
  | literalBlock => false

/-- The quotes at either end. -/
def delimiter (q : Quote) : List Char := if q.isBlock then [q.mark, q.mark, q.mark] else [q.mark]

end Quote

/-- The kinds of tokens. -/
inductive TokenKind where
  | dot
  | equals
  | comma
  | openBracket
  | closeBracket
  | openBrace
  | closeBrace
  | blank
  | comment
  | newline
  | quoted (q : Quote)
  | bare
  deriving DecidableEq, Repr

/-- A token and the place at which it starts. -/
structure Token where
  kind : TokenKind
  start : Nat
  text : List Char
  deriving DecidableEq, Repr

/-- The number of bytes of some characters. -/
def byteSize : List Char → Nat
  | [] => 0
  | c :: cs => c.utf8Size + byteSize cs

namespace Token

/-- The place behind the token. -/
def stop (t : Token) : Nat := t.start + byteSize t.text

/-- The bytes of the token. -/
def span (t : Token) : Span := ⟨t.start, t.stop⟩

end Token

/-! ### Cutting -/

/-- Blanks within a line. -/
def isBlank (c : Char) : Bool := c = ' ' || c = '\t'

/-- The kind of a character that is a token by itself. -/
def punctuation? : Char → Option TokenKind
  | '.' => some .dot
  | '=' => some .equals
  | ',' => some .comma
  | '[' => some .openBracket
  | ']' => some .closeBracket
  | '{' => some .openBrace
  | '}' => some .closeBrace
  | '\n' => some .newline
  | _ => none

/-- May the character not stand in a bare word? -/
def endsBare (c : Char) : Bool :=
  (punctuation? c).isSome || isBlank c || c = '#' || c = '\r'

/-- The number of characters up to and with the end of a quoted text that spans no lines. -/
def lineTextLength (q : Quote) : List Char → Nat
  | [] => 0
  | '\n' :: _ => 0
  | '\\' :: c :: cs =>
    if q.hasEscapes && (c = '\\' || c = '"') then lineTextLength q cs + 2
    else lineTextLength q (c :: cs) + 1
  | c :: cs => if c = q.mark then 1 else lineTextLength q cs + 1

/-- The number of characters up to and with the end of a quoted text that may span lines.  Up to two
more quotes at its end belong to it. -/
def blockTextLength (q : Quote) : List Char → Nat
  | [] => 0
  | '\\' :: c :: cs =>
    if q.hasEscapes && (c = '\\' || c = '"') then blockTextLength q cs + 2
    else blockTextLength q (c :: cs) + 1
  | c :: cs =>
    if q.delimiter.isPrefixOf (c :: cs) then
      3 + (((cs.drop 2).take 2).takeWhile (· = q.mark)).length
    else blockTextLength q cs + 1

/-- The quotes that a text begins with. -/
def quote? (cs : List Char) : Option Quote :=
  [Quote.basicBlock, .literalBlock, .basic, .literal].find? fun q => q.delimiter.isPrefixOf cs

/-- The kind of the first token of `c :: cs`, and the number of its characters behind `c`. -/
def firstToken (c : Char) (cs : List Char) : TokenKind × Nat :=
  match punctuation? c, quote? (c :: cs) with
  | some kind, _ => (kind, 0)
  | none, some q =>
    let behind := cs.drop (q.delimiter.length - 1)
    (.quoted q, q.delimiter.length - 1
      + (if q.isBlock then blockTextLength q behind else lineTextLength q behind))
  | none, none =>
    if isBlank c then (.blank, (cs.takeWhile isBlank).length)
    else if c = '#' then (.comment, (cs.takeWhile fun d => d ≠ '\n' && d ≠ '\r').length)
    else if c = '\r' then (.newline, if cs.head? = some '\n' then 1 else 0)
    else (.bare, (cs.takeWhile fun d => !endsBare d).length)

/-- Cuts a text into tokens.  `start` is its place. -/
def tokens (start : Nat) (cs : List Char) : List Token :=
  match cs with
  | [] => []
  | c :: cs =>
    let (kind, more) := firstToken c cs
    let t : Token := ⟨kind, start, c :: cs.take more⟩
    t :: tokens t.stop (cs.drop more)
termination_by cs.length

/-- The tokens of a file.  A byte order mark at its beginning is no part of them. -/
def tokensOf (text : String) : List Token :=
  match text.toList with
  | '\uFEFF' :: cs => tokens 3 cs
  | cs => tokens 0 cs

end Toml

end PatternFactory
