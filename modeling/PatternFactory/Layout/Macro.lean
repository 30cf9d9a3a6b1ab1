import PatternFactory.Layout.Attribute

/-!
# Layout of macro calls

The content of a macro call is a token sequence without a grammar of its own.  Its layout goes by
the neighbours of each token only.  The definition of a macro by rules has a layout of its own: each
rule is a group of tokens to match, an arrow, and a group of tokens to put in their place.
-/

namespace PatternFactory

/-! ### Tokens -/

/-- What stands in front of a token in a macro call. -/
inductive MacroState where
  | start | dollar | dollarCrate | dollarName | dollarNameColon | dollarParen | separator
  | pound | poundBang | dot | colon | colonColon | word | wordBang | group | other
  deriving DecidableEq

/-- The words in front of which a macro call keeps a blank even behind a dot, and behind which it
keeps one even in front of a bracket. -/
def macroKeywords : List String := [
  "as", "async", "await", "box", "break", "const", "continue", "dyn", "else", "enum", "extern",
  "fn", "for", "if", "impl", "in", "let", "loop", "macro", "match", "mod", "move", "mut", "pub",
  "ref", "return", "static", "struct", "trait", "type", "unsafe", "use", "where", "while", "yield"]

namespace MacroState

/-- Is there a blank in front of a word, unless it is glued, and what does it lead to?  In a matcher
a dollar sign and a name are followed by a colon and the kind of what the name stands for. -/
def nextWord (state : MacroState) (matcher : Bool) (s : String) : Bool × MacroState :=
  match state with
  | .dollar =>
    (false, if matcher then .dollarName else if s = "crate" then .dollarCrate else .other)
  | .dollarNameColon => (false, .other)
  | .dollarParen => (false, .separator)
  | _ =>
    if macroKeywords.contains s then (true, .other)
    else (state ≠ .dot && state ≠ .colonColon, .word)

/-- Is there a blank in front of a literal, unless it is glued, and what does it lead to? -/
def nextLiteral (state : MacroState) (s : String) : Bool × MacroState :=
  if state = .dollarParen then (false, .separator)
  else (state ≠ .dot, if s.endsWith "." then .other else .word)

/-- Is there a blank in front of a punctuation mark that is not glued, and what does it lead to? -/
def nextPunct (state : MacroState) (matcher : Bool) (c : Char) (joint : Bool) : Bool × MacroState :=
  if state = .dollarName && c = ':' && !joint then (false, .dollarNameColon)
  else if state = .dollarParen then
    if joint then (false, .dollarParen)
    else (false, if c = '+' || c = '*' || c = '?' then .other else .separator)
  else if state = .separator && (c = '+' || c = '*') then (false, .other)
  else if state = .pound && c = '!' then (false, .poundBang)
  else if state = .word && c = '!' && !joint then (false, .wordBang)
  else if state = .colon && c = ':' then (false, .colonColon)
  else if c = ',' || c = ';' then (false, .other)
  else if c = '.' && !matcher then (state ≠ .word && state ≠ .group, .dot)
  else if c = ':' && joint then (state ∉ [.word, .dollarName, .dollarCrate], .colon)
  else if c = '$' then (true, .dollar)
  else if c = '#' then (true, .pound)
  else (true, .other)

/-- Is there a blank in front of a group, unless it is glued, and what does it lead to? -/
def nextGroup (state : MacroState) (delim : Delimiter) : Bool × MacroState :=
  match state, delim with
  | .dollar, .paren => (false, .dollarParen)
  | .pound, .bracket => (false, .other)
  | .poundBang, .bracket => (false, .other)
  | .word, .paren => (false, .group)
  | .word, .bracket => (false, .group)
  | .wordBang, .paren => (false, .other)
  | .wordBang, .bracket => (false, .other)
  | _, .paren => (true, .group)
  | _, .bracket => (true, .group)
  | _, .brace => (true, .other)

/-- Is there a blank in front of the token, unless it is glued, and what does it lead to? -/
def next (state : MacroState) (matcher : Bool) : Token → Bool × MacroState
  | .word s _ => state.nextWord matcher s
  | .literal s _ => state.nextLiteral s
  | .punct c joint _ => state.nextPunct matcher c joint
  | .group delim .. => state.nextGroup delim

end MacroState

/-- Is the token glued to what follows? -/
def Token.isGlued : Token → Bool
  | .punct c joint _ => joint || c = '$'
  | _ => false

/-- Is the token a dot? -/
def Token.isDot : Token → Bool
  | .punct '.' _ _ => true
  | _ => false

mutual

/-- The layout of a token in a macro call, or in what a rule matches. -/
def Token.macroDocs (matcher : Bool) (t : Token) : List Doc :=
  match t with
  | .word s _ => [.text s]
  | .literal s _ => [.text s]
  | .punct c _ _ => [.text c.toString]
  | .group delim body _ _ =>
    let inside := Tokens.macroDocs matcher .start true body
    let inside := if delim = .brace && !body.isEmpty then Doc.space :: inside ++ [Doc.space]
      else inside
    .text delim.opening.toString :: inside ++ [.text delim.closing.toString]

/-- The layout of the tokens of a macro call, or of what a rule matches. -/
def Tokens.macroDocs (matcher : Bool) (state : MacroState) (glued : Bool) : List Token → List Doc
  | [] => []
  | t :: rest =>
    let (gap, next) := state.next matcher t
    let front :=
      if glued then [] else if gap then [Doc.space] else if t.isDot then [Doc.cut] else []
    front ++ t.macroDocs matcher ++ Tokens.macroDocs matcher next t.isGlued rest

end

/-- Tokens in a box of their own, with `edge` around it. -/
def macroBodyDocs (matcher : Bool) (edge : Doc) (body : List Token) : List Doc :=
  if body.isEmpty then []
  else Doc.rigid Doc.step (Doc.outdent
    (edge :: Doc.filled 0 (Tokens.macroDocs matcher .start true body) ++ [edge]))

/-! ### Rules -/

namespace MacroRules

/-- Which part of a rule comes next. -/
inductive Stage where
  | matcher | equals | greater | expansion | separator

/-- The layout of the rules from some stage on.  A last rule that is not complete is written as far
as it goes. -/
def docs : Stage → List Token → List Doc
  | .matcher, [] => []
  | .separator, [] => [.text ";", Doc.newline]
  | _, [] => [Doc.newline]
  | .matcher, .group delim body _ _ :: rest =>
    .text delim.opening.toString :: macroBodyDocs true Doc.cut body
      ++ .text delim.closing.toString :: docs .equals rest
  | .equals, .punct '=' true _ :: rest => .text " =" :: docs .greater rest
  | .greater, .punct '>' false _ :: rest => .text ">" :: docs .expansion rest
  | .expansion, .group _ body _ _ :: rest =>
    .text " \x7b" :: Doc.seam :: macroBodyDocs false Doc.newline body
      ++ .text "\x7d" :: docs .separator rest
  | .separator, .punct ';' false _ :: rest => .text ";" :: Doc.newline :: docs .matcher rest
  | _, _ => [.refused]

end MacroRules

/-- The layout of the definition of a macro by rules. -/
def macroRulesDocs (name : String) (rules : List Token) : List Doc :=
  .text "macro_rules! " :: .text name :: .text " \x7b"
    :: Doc.rigid Doc.step (Doc.outdent (Doc.newlineInside :: MacroRules.docs .matcher rules))
    ++ [.text "\x7d"]

/-! ### Calls -/

/-- The layout of a macro call, which may define something of a name. -/
def macroCallDocs (path : SimplePath) (name : Option String) (delim : Delimiter)
    (body : List Token) (semicolon : Bool) : List Doc :=
  let edge := if delim = .brace then Doc.newline else Doc.cut
  let gap := if delim = .brace then " " else ""
  let call : List Doc :=
    path.docs ++ .text "!" :: (name.map fun n => [.text " ", .text n]).getD []
      ++ .text (gap ++ delim.opening.toString) :: macroBodyDocs false edge body
      ++ .text delim.closing.toString :: if semicolon && delim ≠ .brace then [.text ";"] else []
  match name with
  | some n => if path.isWord "macro_rules" then macroRulesDocs n body else call
  | none => call

end PatternFactory
