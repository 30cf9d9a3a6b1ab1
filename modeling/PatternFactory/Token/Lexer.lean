import PatternFactory.Token.Basic
import PatternFactory.Token.Lexeme
import PatternFactory.Unicode.Escape

/-!
# Reading tokens

`Tokens.ofText` reads a text as token trees.  It fails with the place where the text stops being a
token sequence: at a lexeme that is none, at a closing bracket that closes nothing, or at the
opening bracket of the innermost group that is not closed.
-/

namespace PatternFactory

namespace Lexer

/-- A group that is still open: its bracket, where it stands, and the tokens in front of it, last
one first. -/
structure Frame where
  delim : Delimiter
  opening : Pos
  before : List Token

/-- How a character is written in a string literal in front of another one.  A digit must not become
a part of an escape. -/
def escapeChar (c : Char) (next : Option Char) : List Char :=
  if c = '\x00' && next.any (fun d => '0' ≤ d && d ≤ '7') then "\\x00".toList
  else Unicode.escaped c

/-- The string literal whose value is the text. -/
def stringLiteral (cs : List Char) : String :=
  String.ofList ('"' :: go cs)
where
  go : List Char → List Char
    | [] => ['"']
    | c :: rest => escapeChar c rest.head? ++ go rest

/-- A documentation comment as the attribute that it abbreviates. -/
def docTokens (comment : Lexeme.DocComment) (pos : Pos) : List Token :=
  let attr := Token.group .bracket
    [.word "doc" pos, .punct '=' false pos, .literal (stringLiteral comment.text) pos] pos pos
  if comment.inner then [.punct '#' false pos, .punct '!' false pos, attr]
  else [.punct '#' false pos, attr]

/-- A literal that stands for a lexical error in text made by other tools. -/
def errorLiteral : String := "(/*ERROR*/)"

/-- One token that is no group, and what follows it. -/
def leaf? (cs : List Char) (pos : Pos) : Option (Token × List Char) :=
  match Lexeme.literal? cs with
  | some rest => some (.literal (String.ofList (Lexeme.upTo cs rest)) pos, rest)
  | none =>
    match Lexeme.punct? cs with
    | some (c, joint, rest) => some (.punct c joint pos, rest)
    | none =>
      match Lexeme.word? cs with
      | some rest => some (.word (String.ofList (Lexeme.upTo cs rest)) pos, rest)
      | none => (Lexeme.after? errorLiteral cs).map fun rest => (.literal errorLiteral pos, rest)

/-- Reads tokens from `text`, which stands at `pos` inside the open groups `stack`; `acc` holds
the tokens of the innermost group so far, last one first. -/
def scan (text : List Char) (pos : Pos) (stack : List Frame) (acc : List Token) :
    Except Pos (List Token) :=
  let cs := Lexeme.skipBlanks text
  let lo := pos.advance (Lexeme.upTo text cs)
  let goOn (rest : List Char) (stack : List Frame) (acc : List Token) :=
    if rest.length < text.length then scan rest (lo.advance (Lexeme.upTo cs rest)) stack acc
    else .error lo
  match Lexeme.docComment? cs with
  | some (comment, rest) => goOn rest stack ((docTokens comment lo).reverse ++ acc)
  | none =>
    match cs with
    | [] =>
      match stack with
      | [] => .ok acc.reverse
      | frame :: _ => .error frame.opening
    | c :: rest =>
      match (if Lexeme.startsWith errorLiteral cs then none else Delimiter.ofOpening? c) with
      | some delim => goOn rest (⟨delim, lo, acc⟩ :: stack) []
      | none =>
        match Delimiter.ofClosing? c with
        | some delim =>
          match stack with
          | [] => .error lo
          | frame :: outer =>
            if frame.delim = delim then
              goOn rest outer (.group delim acc.reverse frame.opening lo :: frame.before)
            else .error lo
        | none =>
          match leaf? cs lo with
          | some (token, rest) => goOn rest stack (token :: acc)
          | none => .error lo
termination_by text.length

end Lexer

/-- The tokens of a text, or the place of its lexical error.  A byte order mark at the front is
skipped. -/
def Tokens.ofText (text : String) : Except Pos (List Token) :=
  match text.toList with
  | '\uFEFF' :: cs => Lexer.scan cs ⟨1, 2⟩ [] []
  | cs => Lexer.scan cs .start [] []

end PatternFactory
