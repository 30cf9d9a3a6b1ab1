import PatternFactory.Token.Lexeme

/-!
# The value of a string literal

`stringValue` takes the spelling of a string literal and gives the text that it stands for.  Raw
literals stand for what is between their quotes; in the others escapes are resolved, a backslash at
a line end swallows the blanks behind it, and a line end is always a line feed.
-/

namespace PatternFactory

namespace StringLiteral

/-- The characters that an escape behind a backslash stands for, and what follows it. -/
def escape (cs : List Char) : List Char × List Char :=
  match cs with
  | 'x' :: a :: b :: rest =>
    ([Char.ofNat ((Lexeme.hexValue? a).getD 0 * 16 + (Lexeme.hexValue? b).getD 0)], rest)
  | 'u' :: rest =>
    match Lexeme.unicodeEscape? rest with
    | some (n, rest) => ([Char.ofNat n], rest)
    | none => ([], rest)
  | 'n' :: rest => (['\n'], rest)
  | 'r' :: rest => (['\r'], rest)
  | 't' :: rest => (['\t'], rest)
  | '0' :: rest => (['\x00'], rest)
  | '\r' :: rest => ([], rest.dropWhile Lexeme.isBlank)
  | '\n' :: rest => ([], rest.dropWhile Lexeme.isBlank)
  | c :: rest => ([c], rest)
  | [] => ([], [])

/-- The value of the text behind an opening quote, up to the closing quote. -/
def cooked (cs : List Char) : List Char :=
  match cs with
  | [] => []
  | '"' :: _ => []
  | '\\' :: rest =>
    let (value, after) := escape rest
    if after.length ≤ rest.length then value ++ cooked after else []
  | '\r' :: '\n' :: rest => '\n' :: cooked rest
  | c :: rest => c :: cooked rest
termination_by cs.length
decreasing_by all_goals simp only [List.length_cons] at *; omega

/-- The text up to a quote that is followed by as many marks as were in front of it. -/
def raw (marks : Nat) : List Char → List Char
  | [] => []
  | '"' :: cs => if (cs.takeWhile (· = '#')).length ≥ marks then [] else '"' :: raw marks cs
  | c :: cs => c :: raw marks cs

end StringLiteral

/-- The text that a string literal stands for. -/
def stringValue (spelling : String) : String :=
  String.ofList (match spelling.toList with
    | 'r' :: rest =>
      let marks := (rest.takeWhile (· = '#')).length
      StringLiteral.raw marks (rest.drop (marks + 1))
    | _ :: rest => StringLiteral.cooked rest
    | [] => [])

end PatternFactory
