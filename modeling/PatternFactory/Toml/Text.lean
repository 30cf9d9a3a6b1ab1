import PatternFactory.Toml.Syntax

/-!
# Quoted texts and keys

`Written.text?` gives the text that a quoted text stands for, and `Written.key` the name that a key
stands for.  In texts between double quotes escapes are resolved; in texts that span lines a line
end right behind the opening quotes does not count, and a backslash at the end of a line swallows
the blanks and line ends behind it.
-/

namespace PatternFactory

namespace Toml

/-! ### Characters -/

/-- Is the character a control character other than a tab? -/
def isControl (c : Char) : Bool := (c < ' ' && c ≠ '\t') || c = '\x7f'

/-- The value of a hexadecimal digit. -/
def hexDigit? (c : Char) : Option Nat :=
  if '0' ≤ c && c ≤ '9' then some (c.toNat - '0'.toNat)
  else if 'a' ≤ c && c ≤ 'f' then some (c.toNat - 'a'.toNat + 10)
  else if 'A' ≤ c && c ≤ 'F' then some (c.toNat - 'A'.toNat + 10)
  else none

/-- The number that hexadecimal digits stand for. -/
def hexNumber (cs : List Char) : Nat := cs.foldl (fun n c => n * 16 + (hexDigit? c).getD 0) 0

/-- The character with a number. -/
def character? (n : Nat) : Option Char := if n.isValidChar then some (Char.ofNat n) else none

/-! ### Escapes -/

/-- The characters that stand for one character behind a backslash. -/
def escapedChar? : Char → Option Char
  | 'b' => some '\x08'
  | 'e' => some '\x1b'
  | 'f' => some '\x0c'
  | 'n' => some '\n'
  | 'r' => some '\r'
  | 't' => some '\t'
  | '\\' => some '\\'
  | '"' => some '"'
  | _ => none

/-- The number of hexadecimal digits that a character behind a backslash asks for. -/
def hexLength? : Char → Option Nat
  | 'x' => some 2
  | 'u' => some 4
  | 'U' => some 8
  | _ => none

/-- The character that an escape stands for, and the number of characters in it.  `pos` is the place
behind the backslash. -/
def escape (pos : Nat) : List Char → Except Fault (Char × Nat)
  | [] => .error ⟨.point pos, .badEscape⟩
  | c :: cs =>
    match escapedChar? c, hexLength? c with
    | some d, _ => .ok (d, 1)
    | none, some n =>
      let digits := (cs.take n).takeWhile fun d => (hexDigit? d).isSome
      if digits.length < n then .error ⟨.point (pos + 1 + digits.length), .fewDigits⟩
      else
        match character? (hexNumber digits) with
        | some d => .ok (d, n + 1)
        | none => .error ⟨.point (pos + 1), .noCharacter⟩
    | none, none => .error ⟨.point pos, .badEscape⟩

/-- The blanks and line ends behind a backslash, if a line ends there. -/
def foldedBlanks? (cs : List Char) : Option Nat :=
  let blanks := cs.takeWhile isBlank
  match cs.drop blanks.length with
  | '\n' :: _ => some (cs.takeWhile fun c => isBlank c || c = '\n' || c = '\r').length
  | '\r' :: '\n' :: _ => some (cs.takeWhile fun c => isBlank c || c = '\n' || c = '\r').length
  | _ => none

/-! ### Bodies -/

/-- Reads what is between the quotes.  `pos` is its place. -/
def body (q : Quote) (pos : Nat) (cs : List Char) : Except Fault (List Char) :=
  match cs with
  | [] => .ok []
  | c :: cs =>
    if c = '\\' && q.hasEscapes then
      match (if q.isBlock then foldedBlanks? cs else none) with
      | some n => body q (pos + 1 + n) (cs.drop n)
      | none => do
        let (d, n) ← escape (pos + 1) cs
        return d :: (← body q (pos + 1 + n) (cs.drop n))
    else if c = '\n' && q.isBlock then do
      return c :: (← body q (pos + 1) cs)
    else if c = '\r' && q.isBlock then
      if cs.head? = some '\n' then do return c :: (← body q (pos + 1) cs)
      else .error ⟨.point (pos + 1), .strayReturn⟩
    else if isControl c then
      .error ⟨⟨pos, pos + 1 + (cs.takeWhile isControl).length⟩, .badCharacter q⟩
    else do
      return c :: (← body q (pos + c.utf8Size) cs)
termination_by cs.length

/-- A text without the line end at its beginning, and the size of that. -/
def withoutFirstLineEnd : List Char → List Char × Nat
  | '\n' :: cs => (cs, 1)
  | '\r' :: '\n' :: cs => (cs, 2)
  | cs => (cs, 0)

/-- The text that a quoted text stands for. -/
def quotedText (q : Quote) (start : Nat) (cs : List Char) : Except Fault (List Char) :=
  let marks := q.delimiter
  let inner := cs.drop marks.length
  if marks.isSuffixOf inner then
    let inner := inner.take (inner.length - marks.length)
    let (inner, skipped) := if q.isBlock then withoutFirstLineEnd inner else (inner, 0)
    body q (start + marks.length + skipped) inner
  else .error ⟨.point (start + byteSize cs), .unclosedText q⟩

/-! ### Keys -/

/-- May the character stand in a key that is not quoted? -/
def isKeyChar (c : Char) : Bool := c.isAlphanum || c = '-' || c = '_'

/-- The name of a part of a key, and its place. -/
structure Key where
  name : String
  span : Span
  deriving DecidableEq, Repr, Inhabited

/-- Reads a part of a key. -/
def Written.key (w : Written) : Except Fault Key :=
  match w.quote with
  | some q =>
    if q.isBlock then .error ⟨w.span, .blockKey q⟩
    else do return ⟨String.ofList (← quotedText q w.start w.text), w.span⟩
  | none =>
    let good := w.text.takeWhile isKeyChar
    if w.text.isEmpty then .error ⟨w.span, .emptyKey⟩
    else if good.length < w.text.length then
      .error ⟨.point (w.start + good.length), .badKey⟩
    else .ok ⟨String.ofList w.text, w.span⟩

end Toml

end PatternFactory
