import PatternFactory.Unicode.Identifier

/-!
# Lexemes

Each function recognises one kind of lexeme at the front of a text and returns what follows it:
blanks and comments, identifiers, the forms of string, byte and character literals, and numbers.
A recogniser that does not find its lexeme returns `none`; a text is never changed.
-/

namespace PatternFactory

namespace Lexeme

/-- The text behind `lead`, when the text begins with it. -/
def after? (lead : String) (cs : List Char) : Option (List Char) :=
  go lead.toList cs
where
  go : List Char → List Char → Option (List Char)
    | [], cs => some cs
    | p :: ps, c :: cs => if p = c then go ps cs else none
    | _ :: _, [] => none

/-- Does the text begin with `lead`? -/
def startsWith (lead : String) (cs : List Char) : Bool := (after? lead cs).isSome

/-! ### Blanks and comments -/

/-- Characters that separate tokens: white space and the two directional marks. -/
def isBlank (c : Char) : Bool :=
  let n := c.toNat
  (9 ≤ n && n ≤ 13) || n = 32 || n = 0x85 || n = 0xA0 || n = 0x1680
    || (0x2000 ≤ n && n ≤ 0x200A) || n = 0x200E || n = 0x200F || n = 0x2028 || n = 0x2029
    || n = 0x202F || n = 0x205F || n = 0x3000

/-- The rest of the line, without its end, and the text from the line end on.  A carriage return
in front of the line feed belongs to the line end. -/
def line : List Char → List Char × List Char
  | [] => ([], [])
  | '\n' :: cs => ([], '\n' :: cs)
  | '\r' :: '\n' :: cs => ([], '\n' :: cs)
  | c :: cs => let (l, rest) := line cs; (c :: l, rest)

/-- A block comment up to its end, comments inside it being balanced. -/
def blockComment? (cs : List Char) : Option (List Char) :=
  if startsWith "/*" cs then go 0 cs else none
where
  go (depth : Nat) : List Char → Option (List Char)
    | '/' :: '*' :: cs => go (depth + 1) cs
    | '*' :: '/' :: cs => if depth ≤ 1 then some cs else go (depth - 1) cs
    | _ :: cs => go depth cs
    | [] => none

/-- One blank or one comment that documents nothing. -/
def blank? (cs : List Char) : Option (List Char) :=
  if startsWith "//" cs then
    if (!startsWith "///" cs || startsWith "////" cs) && !startsWith "//!" cs then
      some (line cs).2
    else none
  else if startsWith "/**/" cs then some (cs.drop 4)
  else if startsWith "/*" cs then
    if (!startsWith "/**" cs || startsWith "/***" cs) && !startsWith "/*!" cs then
      blockComment? cs
    else none
  else
    match cs with
    | c :: rest => if isBlank c then some rest else none
    | [] => none

/-- The text behind all blanks and plain comments. -/
def skipBlanks (cs : List Char) : List Char :=
  match blank? cs with
  | some rest => if rest.length < cs.length then skipBlanks rest else cs
  | none => cs
termination_by cs.length

/-- A comment that documents an item. -/
structure DocComment where
  text : List Char
  /-- It documents the enclosing item rather than the next one. -/
  inner : Bool

/-- Is every carriage return of the text followed by a line feed? -/
def carriageReturnsEndLines : List Char → Bool
  | '\r' :: '\n' :: cs => carriageReturnsEndLines cs
  | '\r' :: _ => false
  | _ :: cs => carriageReturnsEndLines cs
  | [] => true

/-- A documentation comment and what follows it. -/
def docComment? (cs : List Char) : Option (DocComment × List Char) := do
  let block (inner : Bool) : Option (DocComment × List Char) := do
    let rest ← blockComment? cs
    let whole := cs.take (cs.length - rest.length)
    return (⟨(whole.drop 3).take (whole.length - 5), inner⟩, rest)
  let (comment, rest) ←
    if startsWith "//!" cs then
      let (text, rest) := line (cs.drop 3)
      some (⟨text, true⟩, rest)
    else if startsWith "/*!" cs then block true
    else if startsWith "///" cs then
      if startsWith "////" cs then none
      else
        let (text, rest) := line (cs.drop 3)
        some (⟨text, false⟩, rest)
    else if startsWith "/**" cs && !startsWith "/***" cs then block false
    else none
  if carriageReturnsEndLines comment.text then some (comment, rest) else none

/-! ### Identifiers -/

/-- An identifier without a raw mark. -/
def plainIdent? : List Char → Option (List Char)
  | c :: cs => if isIdentStart c then some (cs.dropWhile isIdentContinue) else none
  | [] => none

/-- The text between a text and a later point of it. -/
def upTo (cs rest : List Char) : List Char := cs.take (cs.length - rest.length)

/-- An identifier, with or without the raw mark `r#`; a few words have no raw form. -/
def ident? (cs : List Char) : Option (List Char) :=
  match after? "r#" cs with
  | none => plainIdent? cs
  | some raw => do
    let rest ← plainIdent? raw
    if ["_", "super", "self", "Self", "crate"].contains (String.ofList (upTo raw rest)) then none
    else some rest

/-- The beginnings of literals that an identifier must not have. -/
def literalLeads : List String :=
  ["r\"", "r#\"", "r##", "b\"", "b'", "br\"", "br#", "c\"", "cr\"", "cr#"]

/-- An identifier that is not the beginning of a literal. -/
def word? (cs : List Char) : Option (List Char) :=
  if literalLeads.any (startsWith · cs) then none else ident? cs

/-- The text behind the suffix that may follow a literal. -/
def skipSuffix (cs : List Char) : List Char := (plainIdent? cs).getD cs

/-! ### Escapes -/

/-- The value of a hexadecimal digit. -/
def hexValue? (c : Char) : Option Nat :=
  if '0' ≤ c && c ≤ '9' then some (c.toNat - '0'.toNat)
  else if 'a' ≤ c && c ≤ 'f' then some (c.toNat - 'a'.toNat + 10)
  else if 'A' ≤ c && c ≤ 'F' then some (c.toNat - 'A'.toNat + 10)
  else none

/-- Is `n` the code point of a character? -/
def isCodePoint (n : Nat) : Bool := n < 0xD800 || (0xDFFF < n && n < 0x110000)

/-- Behind `\u`: up to six hexadecimal digits in braces, underscores between them. -/
def unicodeEscape? : List Char → Option (Nat × List Char)
  | '\x7b' :: cs => go 0 0 cs
  | _ => none
where
  go (value count : Nat) : List Char → Option (Nat × List Char)
    | '_' :: cs => if 0 < count then go value count cs else none
    | '\x7d' :: cs => if 0 < count && isCodePoint value then some (value, cs) else none
    | c :: cs =>
      match hexValue? c with
      | some d => if count = 6 then none else go (value * 16 + d) (count + 1) cs
      | none => none
    | [] => none

/-- Behind a backslash at a line end: the blanks up to the next other character. -/
def lineContinuation? : List Char → Option (List Char)
  | '\r' :: '\n' :: cs => lineContinuation? cs
  | '\r' :: _ => none
  | '\n' :: cs => lineContinuation? cs
  | ' ' :: cs => lineContinuation? cs
  | '\t' :: cs => lineContinuation? cs
  | [] => none
  | cs => some cs

/-- The family of a quoted literal, which decides its characters and escapes. -/
inductive Quoted where
  | text
  | bytes
  | cText
  deriving DecidableEq

/-- Behind `\x`: two hexadecimal digits in the range of the family. -/
def hexEscape? (kind : Quoted) : List Char → Option (List Char)
  | a :: b :: cs => do
    let high ← hexValue? a
    let low ← hexValue? b
    match kind with
    | .text => if high ≤ 7 then some cs else none
    | .bytes => some cs
    | .cText => if high = 0 && low = 0 then none else some cs
  | _ => none

/-- One escape, given the text behind its backslash. -/
def escape? (kind : Quoted) : List Char → Option (List Char)
  | 'x' :: cs => hexEscape? kind cs
  | 'u' :: cs =>
    match kind with
    | .bytes => none
    | .text => (unicodeEscape? cs).map (·.2)
    | .cText => (unicodeEscape? cs).bind fun (n, rest) => if n = 0 then none else some rest
  | '0' :: cs => if kind = .cText then none else some cs
  | c :: cs => if ['n', 'r', 't', '\\', '\'', '"'].contains c then some cs else none
  | [] => none

/-- May the character stand for itself in a literal of the family? -/
def isPlain (kind : Quoted) (c : Char) : Bool :=
  match kind with
  | .text => true
  | .bytes => c.toNat < 128
  | .cText => c ≠ '\x00'

/-! ### Quoted literals -/

/-- The body of a quoted literal from behind its opening quote to behind its closing quote and
suffix. -/
def quoted? (kind : Quoted) (cs : List Char) : Option (List Char) :=
  match cs with
  | [] => none
  | '"' :: rest => some (skipSuffix rest)
  | '\r' :: rest =>
    match rest with
    | '\n' :: after => quoted? kind after
    | _ => none
  | '\\' :: rest =>
    let next := match rest with
      | '\n' :: _ => lineContinuation? rest
      | '\r' :: _ => lineContinuation? rest
      | _ => escape? kind rest
    match next with
    | some after => if after.length ≤ rest.length then quoted? kind after else none
    | none => none
  | c :: rest => if isPlain kind c then quoted? kind rest else none
termination_by cs.length
decreasing_by all_goals simp only [List.length_cons] at *; omega

/-- The opening of a raw literal: the number of `#` marks and the text behind the quote. -/
def rawOpening? (cs : List Char) : Option (Nat × List Char) :=
  let marks := (cs.takeWhile (· = '#')).length
  match cs.drop marks with
  | '"' :: rest => if marks ≤ 255 then some (marks, rest) else none
  | _ => none

/-- The body of a raw literal that closes with a quote and `marks` marks. -/
def rawBody? (kind : Quoted) (marks : Nat) : List Char → Option (List Char)
  | [] => none
  | '"' :: cs =>
    if (cs.takeWhile (· = '#')).length ≥ marks then some (skipSuffix (cs.drop marks))
    else rawBody? kind marks cs
  | '\r' :: '\n' :: cs => rawBody? kind marks cs
  | '\r' :: _ => none
  | c :: cs => if isPlain kind c then rawBody? kind marks cs else none

/-- A raw literal from behind its leading letters. -/
def raw? (kind : Quoted) (cs : List Char) : Option (List Char) := do
  let (marks, body) ← rawOpening? cs
  rawBody? kind marks body

/-- A character or byte literal from behind its opening quote. -/
def character? (kind : Quoted) (cs : List Char) : Option (List Char) := do
  let rest ← match cs with
    | '\\' :: cs => escape? kind cs
    | c :: cs => if isPlain kind c then some cs else none
    | [] => none
  match rest with
  | '\'' :: rest => some (skipSuffix rest)
  | _ => none

/-! ### Numbers -/

/-- The text, unless it goes on with an identifier character. -/
def atWordEnd? : List Char → Option (List Char)
  | c :: cs => if isIdentContinue c then none else some (c :: cs)
  | [] => some []

/-- The exponent of a number from behind its `e`: an optional sign and digits.  `none` says that
no exponent is there. -/
def exponent? (sign digits : Bool) : List Char → Option (List Char)
  | [] => if digits then some [] else none
  | c :: cs =>
    if c = '+' || c = '-' then
      if digits then some (c :: cs) else if sign then none else exponent? true digits cs
    else if c.isDigit then exponent? sign true cs
    else if c = '_' then exponent? sign digits cs
    else if digits then some (c :: cs) else none

/-- The digits of a floating point number, which needs a point or an exponent. -/
def floatDigits? : List Char → Option (List Char)
  | c :: cs => if c.isDigit then go false cs else none
  | [] => none
where
  go (dot : Bool) : List Char → Option (List Char)
    | [] => if dot then some [] else none
    | c :: cs =>
      if c.isDigit || c = '_' then go dot cs
      else if c = '.' then
        if dot then some (c :: cs)
        else
          match cs with
          | d :: _ => if d = '.' || isIdentStart d then none else go true cs
          | [] => go true cs
      else if c = 'e' || c = 'E' then
        match exponent? false false cs with
        | some rest => some rest
        | none => if dot then some (c :: cs) else none
      else if dot then some (c :: cs) else none

/-- A floating point number with its suffix. -/
def float? (cs : List Char) : Option (List Char) := do
  let rest ← floatDigits? cs
  atWordEnd? (skipSuffix rest)

/-- The digits of an integer in the given base; `seen` says whether a digit was read. -/
def intDigits? (base : Nat) (seen : Bool) : List Char → Option (List Char)
  | [] => if seen then some [] else none
  | c :: cs =>
    if c = '_' then
      if !seen && base = 10 then none else intDigits? base seen cs
    else
      match hexValue? c with
      | some d =>
        if d < base then intDigits? base true cs
        else if c.isDigit then none
        else if seen then some (c :: cs) else none
      | none => if seen then some (c :: cs) else none

/-- An integer with its base mark and suffix. -/
def int? (cs : List Char) : Option (List Char) := do
  let rest ← match after? "0x" cs, after? "0o" cs, after? "0b" cs with
    | some digits, _, _ => intDigits? 16 false digits
    | _, some digits, _ => intDigits? 8 false digits
    | _, _, some digits => intDigits? 2 false digits
    | _, _, _ => intDigits? 10 false cs
  atWordEnd? (skipSuffix rest)

/-! ### Literals -/

/-- Strings of all families, with or without escapes. -/
def string? (cs : List Char) : Option (List Char) :=
  (after? "\"" cs >>= quoted? .text)
    <|> (after? "r" cs >>= raw? .text)
    <|> (after? "b\"" cs >>= quoted? .bytes)
    <|> (after? "br" cs >>= raw? .bytes)
    <|> (after? "c\"" cs >>= quoted? .cText)
    <|> (after? "cr" cs >>= raw? .cText)

/-- A literal of any kind. -/
def literal? (cs : List Char) : Option (List Char) :=
  string? cs
    <|> (after? "b'" cs >>= character? .bytes)
    <|> (after? "'" cs >>= character? .text)
    <|> float? cs
    <|> int? cs

/-! ### Punctuation -/

/-- The characters that are punctuation tokens, the tick of a lifetime among them. -/
def punctuation : List Char := "~!@#$%^&*-=+|;:,<.>/?'".toList

/-- A punctuation character; the slash that begins a comment is none. -/
def punctChar? (cs : List Char) : Option (Char × List Char) :=
  if startsWith "//" cs || startsWith "/*" cs then none
  else
    match cs with
    | c :: rest => if punctuation.contains c then some (c, rest) else none
    | [] => none

/-- A punctuation character and whether it is glued to the next token.  A tick is one only in
front of the name of a lifetime. -/
def punct? (cs : List Char) : Option (Char × Bool × List Char) := do
  let (c, rest) ← punctChar? cs
  if c = '\'' then
    let name ← ident? rest
    match name with
    | '\'' :: _ => none
    | '#' :: _ => if startsWith "r#" rest then some (c, true, rest) else none
    | _ => some (c, true, rest)
  else some (c, (punctChar? rest).isSome, rest)

end Lexeme

end PatternFactory
