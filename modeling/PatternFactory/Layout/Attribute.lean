import PatternFactory.Grammar.Tree
import PatternFactory.Layout.Doc
import PatternFactory.Token.StringLiteral

/-!
# Layout of attributes and comments

The content of an attribute is a token sequence without a grammar of its own, whose layout goes by
the neighbours of each token only.  Attributes that hold the text of a comment are written as such.
-/

namespace PatternFactory

/-- The words of a path of plain words. -/
def SimplePath.docs (p : SimplePath) : List Doc :=
  (if p.leading then [.text "::"] else []) ++ Doc.joined "::" (p.words.map fun w => [.text w])

/-! ### Tokens -/

/-- What stands in front of a token in an attribute. -/
inductive AttrState where
  | word
  | punct
  | lastComma
  deriving DecidableEq

mutual

/-- The layout of a token in an attribute; `isLast` says that no token follows in its group. -/
def Token.attrDocs (state : AttrState) (isLast : Bool) (t : Token) : List Doc × AttrState :=
  match t with
  | .word s _ => ((if state = .word then [Doc.space] else []) ++ [.text s], .word)
  | .literal s _ => ((if state = .word then [Doc.space] else []) ++ [.text s], .word)
  | .punct c _ _ =>
    let gap := if state = .word && c = '=' then [Doc.text " "] else []
    if c = ',' && isLast then (gap ++ [Doc.lastComma 0], .lastComma)
    else
      let behind := if c = '=' then [Doc.text " "] else if c = ',' then [Doc.space] else []
      (gap ++ .text c.toString :: behind, .punct)
  | .group delim body _ _ =>
    let (inside, last) := Tokens.attrDocs .punct body
    match delim with
    | .paren =>
      let closing := if last = .lastComma then [] else [Doc.cut]
      (.text "(" :: Doc.rigid Doc.step (Doc.outdent (Doc.cut :: inside ++ closing))
        ++ [.text ")"], .punct)
    | d => (.text d.opening.toString :: inside ++ [.text d.closing.toString], .punct)

/-- The layout of the tokens of an attribute. -/
def Tokens.attrDocs (state : AttrState) : List Token → List Doc × AttrState
  | [] => ([], state)
  | t :: rest =>
    let (docs, state) := t.attrDocs state rest.isEmpty
    let (more, state) := Tokens.attrDocs state rest
    (docs ++ more, state)

end

/-! ### Comments -/

namespace Attr

/-- The text of an attribute that holds nothing but a string literal. -/
def textOf? (a : Attr) (word : String) : Option String :=
  match a.meta with
  | .nameValue path (.tree .literal [.literal text]) =>
    if path.isWord word && (text.startsWith "\"" || text.startsWith "r") then
      some (stringValue text)
    else none
  | _ => none

/-- Are the block comments in a text, taken as the content of one, balanced? -/
def isBalanced (depth : Nat) : List Char → Bool
  | '/' :: '*' :: rest => isBalanced (depth + 1) rest
  | '*' :: '/' :: rest => depth ≠ 0 && isBalanced (depth - 1) rest
  | _ :: rest => isBalanced depth rest
  | [] => depth = 0

/-- A text without the blanks at the end of some of its lines: of all but the last one. -/
def trimLines (s : String) : String :=
  match (s.splitOn "\n").reverse with
  | last :: before => "\n".intercalate ((last :: before.map trimEnd).reverse)
  | [] => s
where
  trimEnd (line : String) : String :=
    String.ofList (line.toList.reverse.dropWhile (· = ' ')).reverse

/-- A text as a comment: on one line behind `line`, else between `opening` and the end of a block
comment, if the text begins with none of `bad`. -/
def commentDocs? (text line opening : String) (badLine badBlock : List Char) : Option (List Doc) :=
  let first := text.toList.take 1
  if !text.toList.contains '\n' && !first.any badLine.contains then
    some [.text line, .text (trimLines.trimEnd text), Doc.newline]
  else if isBalanced 0 text.toList && !text.endsWith "/" && !first.any badBlock.contains then
    some [.text opening, .text (trimLines text), .text "*/", Doc.newline]
  else none

/-- An attribute as a comment, if it stands for one. -/
def asComment? (a : Attr) : Option (List Doc) :=
  match a.textOf? "doc", a.inner with
  | some text, false => commentDocs? text "///" "/**" ['/'] ['*', '/']
  | some text, true => commentDocs? text "//!" "/*!" [] []
  | none, _ =>
    (a.textOf? "comment").bind fun text => commentDocs? text "//" "/*" [] ['*', '!']

end Attr

end PatternFactory
