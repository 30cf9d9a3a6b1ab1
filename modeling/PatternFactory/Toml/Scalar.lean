import PatternFactory.Toml.Moment
import PatternFactory.Toml.Text

/-!
# Scalars

`Written.scalar` reads a scalar: a quoted text, a truth value, a number, a date or a time.  Numbers
keep their digits, less the underscores between them.
-/

namespace PatternFactory

namespace Toml

/-- A scalar. -/
inductive Scalar where
  | text (s : String)
  | boolean (b : Bool)
  | integer (base : Nat) (digits : List Char)
  | float (digits : List Char)
  /-- A date or a time. -/
  | moment
  deriving DecidableEq, Repr

/-- Characters and their place. -/
structure Stretch where
  start : Nat
  text : List Char
  deriving DecidableEq, Repr

namespace Stretch

/-- The place behind the characters. -/
def stop (s : Stretch) : Nat := s.start + byteSize s.text

/-- The bytes of the characters. -/
def span (s : Stretch) : Span := ⟨s.start, s.stop⟩

/-- The stretch behind the first `n` characters. -/
def drop (s : Stretch) (n : Nat) : Stretch := ⟨s.start + byteSize (s.text.take n), s.text.drop n⟩

end Stretch

namespace Bare

variable (raw : Stretch)

/-- Fails unless the condition holds. -/
def require (condition : Bool) (span : Span) (flaw : Flaw) : Except Fault Unit :=
  if condition then .ok () else .error ⟨span, flaw⟩

/-- The fault of a scalar that can only be a text without its quotes. -/
def unquoted : Fault :=
  let ends (quotes : List Char) : Bool := quotes.isSuffixOf raw.text
  if ends ['\'', '\'', '\''] then ⟨.point raw.start, .noOpeningQuote "`'''`"⟩
  else if ends ['"', '"', '"'] then ⟨.point raw.start, .noOpeningQuote "`\"\"\"`"⟩
  else if ends ['\''] then ⟨.point raw.start, .noOpeningQuote "`'`"⟩
  else if ends ['"'] then ⟨.point raw.start, .noOpeningQuote "`\"`"⟩
  else ⟨raw.span, .notQuoted⟩

/-! ### Numbers -/

/-- The parts of a text between underscores. -/
def parts (s : Stretch) : List Stretch :=
  let rec go (start : Nat) (part : List Char) : List Char → List Stretch
    | [] => [⟨start, part.reverse⟩]
    | c :: cs =>
      if c = '_' then
        ⟨start, part.reverse⟩ :: go (start + byteSize part + 1) [] cs
      else go start (c :: part) cs
  go s.start [] s.text

/-- May the character stand next to an underscore? -/
def isAnyDigit (kind : BareKind) (c : Char) : Bool :=
  if kind = .float then c.isDigit else (hexDigit? c).isSome

/-- Checks that underscores stand between digits. -/
def checkPart (kind : BareKind) (p : Stretch) : Except Fault Unit := do
  let first := p.text.head?.getD '0'
  let last := p.text.getLast?.getD '0'
  require (p.start = raw.start || isAnyDigit kind first) ⟨p.start - 1, p.start⟩ .badSeparator
  require (p.text.length ≤ 1 || p.stop = raw.stop || isAnyDigit kind last)
    ⟨p.stop, p.stop + 1⟩ .badSeparator
  require (!p.text.isEmpty || p.start = raw.start || p.stop = raw.stop)
    ⟨p.start, p.start + 1⟩ .badSeparator

/-- The digits of a number without the underscores between them. -/
def digits (kind : BareKind) (s : Stretch) : Except Fault (List Char) := do
  require (s.text.head? ≠ some '_') ⟨raw.start, raw.start + 1⟩ .badSeparator
  require (s.text.length ≤ 1 || s.text.getLast? ≠ some '_') ⟨s.stop - 1, s.stop⟩ .badSeparator
  if s.text.contains '_' then (parts s).forM (checkPart raw kind)
  return s.text.filter (· ≠ '_')

/-- A number with digits in the given base. -/
def integer (base : Nat) (s : Stretch) : Except Fault Scalar :=
  .integer base <$> digits raw (.integer base) s

/-- Is the character a digit in the given base? -/
def isDigitIn (base : Nat) (c : Char) : Bool := (hexDigit? c).any (· < base)

/-- A number behind the letter that tells its base. -/
def basedInteger (base : Nat) (s : Stretch) : Except Fault Scalar := do
  let isSign (c : Char) : Bool := c = '+' || c = '-'
  let sign := raw.start + byteSize (raw.text.takeWhile fun c => !isSign c)
  require (!s.text.head?.any isSign) ⟨sign, sign + 1⟩ .signedBase
  let good := s.text.takeWhile fun c => isDigitIn base c || c = '_'
  require (good.length = s.text.length) (.point (s.start + good.length)) (.badDigit (.integer base))
  integer raw base s

/-- Skips decimal digits and underscores, of which there have to be some. -/
def decimals (s : Stretch) (allowZero : Bool) (flaw : Flaw) : Except Fault Stretch := do
  let run := s.text.takeWhile fun c => c.isDigit || c = '_'
  let count := (run.filter Char.isDigit).length
  require (0 < count) (.point s.start) flaw
  require (allowZero || count ≤ 1 || s.text.head? ≠ some '0') ⟨s.start, s.start + 1⟩ .leadingZero
  return s.drop run.length

/-- Skips what follows the point of a number, if there is one. -/
def checkFraction (s : Stretch) : Except Fault Stretch :=
  match s.text with
  | '.' :: _ => decimals (s.drop 1) true .noFraction
  | _ => .ok s

/-- Skips the exponent of a number, if there is one. -/
def checkExponent (s : Stretch) : Except Fault Stretch :=
  match s.text with
  | c :: d :: _ =>
    if c = 'e' || c = 'E' then
      decimals (s.drop (if d = '+' || d = '-' then 2 else 1)) true .noExponent
    else .ok s
  | [c] => if c = 'e' || c = 'E' then decimals (s.drop 1) true .noExponent else .ok s
  | [] => .ok s

/-- A number with a point or an exponent; `s` is the number without its sign. -/
def float (s : Stretch) : Except Fault Scalar := do
  let rest ← decimals s false .noMantissa
  let rest ← checkFraction rest
  let rest ← checkExponent rest
  require rest.text.isEmpty rest.span .badFloat
  return .float (← digits raw .float raw)

/-- A date or a time. -/
def momentOf : Except Fault Scalar :=
  match momentFault? raw.text with
  | none => .ok .moment
  | some text => .error ⟨raw.span, .badMoment text⟩

/-- What begins with a digit: a date, a time or a number.  `s` is the text without its sign. -/
def numeric (s : Stretch) : Except Fault Scalar :=
  let whole := s.text.takeWhile Char.isDigit
  let rest := s.text.drop whole.length
  let noLeadingZero : Except Fault Unit :=
    require (s.text.head? ≠ some '0') ⟨s.start, s.start + 1⟩ .leadingZero
  match rest with
  | [] => do
    noLeadingZero
    integer raw 10 raw
  | '-' :: _ => momentOf raw
  | ':' :: _ => momentOf raw
  | c :: _ =>
    if rest.contains ' ' then .error (unquoted raw)
    else if rest.any fun d => d = '.' || d = 'e' || d = 'E' then float raw s
    else if c = '_' then do
      noLeadingZero
      integer raw 10 raw
    else .error (unquoted raw)

/-- What begins with a zero.  `s` is the text without its sign. -/
def zeroNumeric (signed : Bool) (s : Stretch) : Except Fault Scalar :=
  let based (base : Nat) (isCapital : Bool) (good : String) : Except Fault Scalar := do
    require (!signed) ⟨raw.start, raw.start + 1⟩ .signedBase
    require (!isCapital) ⟨s.start, s.start + 2⟩ (.capitalBase good)
    basedInteger raw base (s.drop 2)
  let decimal : Except Fault Scalar := do
    require (!signed) ⟨raw.start, raw.start + 1⟩ .signedBase
    .error ⟨⟨s.start, s.start + 2⟩, .decimalBase⟩
  match s.text with
  | [_] => integer raw 10 raw
  | _ :: c :: _ =>
    match c with
    | 'x' => based 16 false "0x"
    | 'X' => based 16 true "0x"
    | 'o' => based 8 false "0o"
    | 'O' => based 8 true "0o"
    | 'b' => based 2 false "0b"
    | 'B' => based 2 true "0b"
    | 'd' => decimal
    | 'D' => decimal
    | _ => numeric raw s
  | [] => .error (unquoted raw)

/-! ### Words -/

/-- A word that stands for a value. -/
def word (kind : BareKind) (name : String) (value : Scalar) : Except Fault Scalar :=
  if raw.text = name.toList then .ok value
  else if raw.text.contains ' ' then .error (unquoted raw)
  else .error ⟨raw.span, .notWord kind name⟩

/-- A word behind a sign. -/
def signedWord (name : String) (s : Stretch) : Except Fault Scalar :=
  if s.text = name.toList then .ok (.float raw.text)
  else .error ⟨s.span, .notWord .float name⟩

/-- What follows a sign. -/
def signed (s : Stretch) : Except Fault Scalar :=
  match s.text with
  | '+' :: _ => .error ⟨⟨s.start, s.start + 1⟩, .doubleSign⟩
  | '-' :: _ => .error ⟨⟨s.start, s.start + 1⟩, .doubleSign⟩
  | '_' :: _ => numeric raw s
  | '0' :: _ => zeroNumeric raw true s
  | '.' :: _ => float raw s
  | 'i' :: _ => signedWord raw "inf" s
  | 'I' :: _ => signedWord raw "inf" s
  | 'n' :: _ => signedWord raw "nan" s
  | 'N' :: _ => signedWord raw "nan" s
  | c :: _ => if c.isDigit then numeric raw s else .error (unquoted raw)
  | [] => .error (unquoted raw)

/-- A scalar that is not quoted. -/
def scalar : Except Fault Scalar :=
  match raw.text with
  | '+' :: _ => signed raw (raw.drop 1)
  | '-' :: _ => signed raw (raw.drop 1)
  | '_' :: _ => numeric raw raw
  | '0' :: _ => zeroNumeric raw false raw
  | '.' :: _ => float raw raw
  | 't' :: _ => word raw .boolean "true" (.boolean true)
  | 'T' :: _ => word raw .boolean "true" (.boolean true)
  | 'f' :: _ => word raw .boolean "false" (.boolean false)
  | 'F' :: _ => word raw .boolean "false" (.boolean false)
  | 'i' :: _ => word raw .float "inf" (.float raw.text)
  | 'I' :: _ => word raw .float "inf" (.float raw.text)
  | 'n' :: _ => word raw .float "nan" (.float raw.text)
  | 'N' :: _ => word raw .float "nan" (.float raw.text)
  | c :: _ => if c.isDigit then numeric raw raw else .error (unquoted raw)
  | [] => .error (unquoted raw)

end Bare

/-- Reads a scalar. -/
def Written.scalar (w : Written) : Except Fault Scalar :=
  match w.quote with
  | some q => do return .text (String.ofList (← quotedText q w.start w.text))
  | none => Bare.scalar ⟨w.start, w.text⟩

end Toml

end PatternFactory
