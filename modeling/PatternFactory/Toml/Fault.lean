import PatternFactory.Toml.Token

/-!
# Faults in a configuration file

What can be wrong with a configuration file, and how it is reported: with the line in question and
carets under the bytes that are at fault.
-/

namespace PatternFactory

namespace Toml

/-- The kinds of scalars that are not quoted. -/
inductive BareKind where
  | boolean
  | float
  /-- A number with digits in base 2, 8, 10 or 16. -/
  | integer (base : Nat)
  deriving DecidableEq, Repr

namespace BareKind

/-- How a scalar that is no good one of its kind is called. -/
def invalid : BareKind → String
  | boolean => "invalid boolean"
  | float => "invalid float"
  | integer 2 => "invalid binary number"
  | integer 8 => "invalid octal number"
  | integer 16 => "invalid hexadecimal number"
  | integer _ => "invalid integer number"

end BareKind

/-- What is wrong. -/
inductive Flaw where
  -- Structure.
  | keyWithoutValue
  | noTableOpening
  | noKey
  | unclosedTable (isArray : Bool)
  | halfClosedTable
  | trailing
  | doubleEquals
  | unclosedArray
  | noArrayOpening
  | extraComma
  | noCommaInArray
  | equalsInArray
  | unclosedInlineTable
  | noInlineTableOpening
  | extraCommaInTable (wanted : String)
  | noCommaInTable
  | noAssignment
  | extraAssignment (wanted : String)
  | noKeyInTable
  | noValue
  | tooDeep
  -- Texts.
  | strayReturn
  | controlInComment
  | emptyKey
  | badKey
  | blockKey (q : Quote)
  | unclosedText (q : Quote)
  | badCharacter (q : Quote)
  | badEscape
  | fewDigits
  | noCharacter
  -- Scalars that are not quoted.
  | notQuoted
  | noOpeningQuote (quotes : String)
  | notWord (kind : BareKind) (word : String)
  | doubleSign
  | signedBase
  | capitalBase (good : String)
  | decimalBase
  | badDigit (kind : BareKind)
  | leadingZero
  | noMantissa
  | noFraction
  | noExponent
  | badFloat
  | badSeparator
  | badMoment (text : String)
  -- Tables.
  | duplicate
  | notExtensible (kind : String)
  -- Values.
  | wrongType (found wanted : String)
  | wrongValue (found wanted : String)
  | integerOverflow
  | floatOverflow
  deriving DecidableEq, Repr

namespace Flaw

/-- A wording with what should be there instead. -/
def expecting (text : String) (wanted : List String) : String :=
  text ++ ", expected " ++ (if wanted.isEmpty then "nothing" else ", ".intercalate wanted)

/-- The characters of keys that are not quoted. -/
def keyCharacters : List String := ["letters", "numbers", "`-`", "`_`"]

/-- The characters that may stand behind a backslash. -/
def escapes : List String :=
  ["`b`", "`e`", "`f`", "`n`", "`r`", "`\\`", "`\"`", "`x`", "`u`", "`U`"]

/-- How a quoted text of a kind is called. -/
def textName : Quote → String
  | .basic => "basic string"
  | .literal => "literal string"
  | .basicBlock => "multi-line basic string"
  | .literalBlock => "multi-line literal string"

/-- The wording. -/
def message : Flaw → String
  | keyWithoutValue => expecting "key with no value" ["`=`"]
  | noTableOpening => expecting "missing table open" ["`[`"]
  | noKey => expecting "invalid key" ["key"]
  | unclosedTable false => expecting "unclosed table" ["`]`"]
  | unclosedTable true => expecting "unclosed array table" ["`]]`"]
  | halfClosedTable => expecting "unclosed array table" ["`]`"]
  | trailing => expecting "unexpected key or value" ["newline", "`#`"]
  | doubleEquals => expecting "extra `=`" []
  | unclosedArray => expecting "unclosed array" ["`]`"]
  | noArrayOpening => expecting "missing array opening" ["`[`"]
  | extraComma => expecting "extra comma in array" ["value"]
  | noCommaInArray => expecting "missing comma between array elements" ["`,`"]
  | equalsInArray => expecting "unexpected `=` in array" ["value", "`]`"]
  | unclosedInlineTable => expecting "unclosed inline table" ["`\x7d`"]
  | noInlineTableOpening => expecting "missing inline table opening" ["`\x7b`"]
  | extraCommaInTable wanted => expecting "extra comma in inline table" [wanted]
  | noCommaInTable => expecting "missing comma between key-value pairs" ["`,`"]
  | noAssignment => expecting "missing assignment between key-value pairs" ["`=`"]
  | extraAssignment wanted => expecting "extra assignment between key-value pairs" [wanted]
  | noKeyInTable => expecting "missing key for inline table element" ["key"]
  | noValue => expecting "missing value" ["value"]
  | tooDeep => "cannot recurse further; max recursion depth met"
  | strayReturn => expecting "carriage return must be followed by newline" ["newline"]
  | controlInComment => expecting "invalid comment character" ["printable characters"]
  | emptyKey => expecting "unquoted keys cannot be empty" keyCharacters
  | badKey => expecting "invalid unquoted key" keyCharacters
  | blockKey q => expecting ("keys cannot be " ++ textName q ++ "s") ["basic string"]
  | unclosedText q => expecting ("invalid " ++ textName q) ["`" ++ q.mark.toString ++ "`"]
  | badCharacter q =>
    expecting ("invalid " ++ textName q)
      (if q.hasEscapes then ["non-double-quote visible characters", "`\\`"]
       else ["non-single-quote visible characters"])
  | badEscape => expecting "missing escaped value" escapes
  | fewDigits => expecting "too few unicode value digits" ["unicode hexadecimal value"]
  | noCharacter => expecting "invalid value" ["unicode hexadecimal value"]
  | notQuoted => expecting "string values must be quoted" ["literal string"]
  | noOpeningQuote quotes => expecting "missing opening quote" [quotes]
  | notWord kind word => expecting kind.invalid ["`" ++ word ++ "`"]
  | doubleSign => expecting "redundant numeric sign" []
  | signedBase => expecting "integers with a radix cannot be signed" []
  | capitalBase good => expecting "radix must be lowercase" ["`" ++ good ++ "`"]
  | decimalBase => expecting "redundant integer number prefix" []
  | badDigit kind => kind.invalid
  | leadingZero => expecting "unexpected leading zero" []
  | noMantissa => expecting "invalid mantissa" ["digits"]
  | noFraction => expecting "invalid fraction" ["digits"]
  | noExponent => expecting "invalid exponent" ["digits"]
  | badFloat => expecting BareKind.float.invalid []
  | badSeparator => expecting "`_` may only go between digits" []
  | badMoment text => text
  | duplicate => "duplicate key"
  | notExtensible kind => "cannot extend value of type " ++ kind ++ " with a dotted key"
  | wrongType found wanted => expecting ("invalid type: " ++ found) [wanted]
  | wrongValue found wanted => expecting ("invalid value: " ++ found) [wanted]
  | integerOverflow => "integer number overflowed"
  | floatOverflow => "floating-point number overflowed"

end Flaw

/-- What is wrong, and where. -/
structure Fault where
  span : Span
  flaw : Flaw
  deriving DecidableEq, Repr

/-! ### Reports -/

/-- The lines of a text. -/
def lines (cs : List Char) : List (List Char) :=
  match cs with
  | [] => [[]]
  | c :: cs =>
    match lines cs with
    | l :: ls => if c = '\n' then [] :: l :: ls else (c :: l) :: ls
    | [] => [[c]]

/-- A place in a text: the number of its line, and of its column, both counted from zero, and the
line. -/
structure Location where
  line : Nat
  column : Nat
  text : List Char
  deriving DecidableEq, Repr

/-- The column of the byte `offset` in a line.  Characters are counted, but bytes if the character
there is not ASCII. -/
def column (line : List Char) (offset : Nat) : Nat :=
  let rec chars (left : Nat) : List Char → Nat
    | [] => left
    | c :: cs =>
      if left = 0 then 0
      else if left < c.utf8Size then left else chars (left - c.utf8Size) cs + 1
  let rec startsWide (left : Nat) : List Char → Bool
    | [] => false
    | c :: cs => if left < c.utf8Size then 1 < c.utf8Size else startsWide (left - c.utf8Size) cs
  if startsWide offset line then offset else chars offset line

/-- The location of the byte `offset`.  The end of a text that ends with a line end is put behind
that line end. -/
def locate (line : Nat) (offset : Nat) : List (List Char) → Location
  | [] => ⟨line, offset, []⟩
  | [l] => ⟨line, column l offset, l⟩
  | l :: next :: ls =>
    let size := byteSize l
    if offset ≤ size || (offset = size + 1 && next.isEmpty && ls.isEmpty) then
      ⟨line, column l offset, l⟩
    else locate (line + 1) (offset - (size + 1)) (next :: ls)

/-- The report on a fault in a text. -/
def report (text : String) (fault : Fault) : String :=
  let at_ := locate 0 fault.span.start (lines text.toList)
  let number := toString (at_.line + 1)
  let margin := "".pushn ' ' (number.length + 1)
  let carets := max 1 (min (fault.span.stop - fault.span.start) (byteSize at_.text - at_.column))
  "TOML parse error at line " ++ number ++ ", column " ++ toString (at_.column + 1) ++ "\n"
    ++ margin ++ "|\n"
    ++ number ++ " | " ++ String.ofList at_.text ++ "\n"
    ++ margin ++ "|" ++ "".pushn ' ' (at_.column + 1) ++ "".pushn '^' carets ++ "\n"
    ++ fault.flaw.message ++ "\n"

end Toml

end PatternFactory
