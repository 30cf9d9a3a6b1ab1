import PatternFactory.Grammar.Tree
import PatternFactory.Layout.Macro

/-!
# Layouts of parts

The layout of a piece of code is made of the layouts of its parts.  It is more than one document,
because its surroundings decide its form: the head of a chain of suffixes is indented otherwise than
an expression by itself, and a block behind `if` otherwise than one in an arm of a match.
-/

namespace PatternFactory

/-- The layout of a piece of code. -/
structure CodeLayout where
  kind : CodeKind
  /-- The code by itself. -/
  whole : List Doc
  /-- The code at the beginning of a line. -/
  atStart : List Doc
  /-- The code as the head of a chain of suffixes, which may be at the beginning of a line. -/
  chain : Bool → List Doc
  /-- Are there attributes in front of it? -/
  hasAttrs : Bool
  /-- Is it a name that is no longer than an indentation step? -/
  isShortName : Bool
  /-- Does it need no box of its own as the only argument of a call? -/
  hugs : Bool
  /-- Does it mean the same in braces? -/
  isBraceable : Bool
  /-- Is it a statement without a semicolon? -/
  isStatement : Bool
  /-- As the last thing in a block, does it get a semicolon? -/
  getsSemicolon : Bool
  /-- Does it lose the semicolon behind it? -/
  losesSemicolon : Bool
  /-- As a condition, does it put the brace behind it on a line of its own when it is broken? -/
  freesBrace : Bool
  /-- Is it a literal that may share a line with other elements of an array? -/
  isSimple : Bool
  /-- The attributes and statements in a block. -/
  inside : List Doc
  /-- The block with its content on lines of its own. -/
  lines : List Doc
  /-- The block behind a keyword. -/
  block : List Doc
  /-- What stands behind `else`. -/
  elseBranch : List Doc
  /-- What stands behind the arrow of an arm, if it is a block there. -/
  armBlock : Option (List Doc)
  /-- The code as a statement, which may be the last one. -/
  statement : Bool → List Doc
  /-- The expression that a statement without a semicolon consists of: as the content of a block,
  and as the body of an arm. -/
  sole : Option (List Doc × List Doc)

/-- The layout of a part. -/
inductive PartLayout where
  | mark (text : String)
  | word (text : String)
  | lifetime (name : String)
  | literal (text : String)
  | group (delim : Delimiter) (parts : List PartLayout)
  | code (code : CodeLayout)
  /-- A type, which may be the beginning of a path in an expression; `bare` is that path without
  the type in angle brackets. -/
  | ty (asType asPath bare : List Doc)
  | piece (docs : List Doc)
  | attr (inner : Bool) (docs : List Doc)
  | simple (path : SimplePath)
  | raw (tokens : List Token)
  | bounds (items : List (List Doc))
  | conditions (items : List (List Doc))

namespace CodeLayout

/-- The wholes of some pieces of code. -/
def wholes (cs : List CodeLayout) : List (List Doc) := cs.map whole

/-- The statements of a block. -/
def statements : List CodeLayout → List Doc
  | [] => []
  | [s] => s.statement true
  | s :: rest => s.statement false ++ statements rest

end CodeLayout

namespace PartLayout

/-- The pieces of code among some parts. -/
def codes (parts : List PartLayout) : List CodeLayout :=
  parts.filterMap fun
    | code c => some c
    | _ => none

/-- The content of the first group among some parts. -/
def group? (parts : List PartLayout) : Option (List PartLayout) :=
  parts.findSome? fun
    | group _ inside => some inside
    | _ => none

/-- The parts in front of the first group. -/
def beforeGroup (parts : List PartLayout) : List PartLayout :=
  parts.takeWhile fun
    | group .. => false
    | _ => true

/-- The pieces of code in the first group among some parts. -/
def groupCodes (parts : List PartLayout) : List CodeLayout := codes ((group? parts).getD [])

/-- Is there a group in braces among the parts? -/
def hasBraces (parts : List PartLayout) : Bool :=
  parts.any fun
    | group .brace _ => true
    | _ => false

/-- Is there such a mark among the parts? -/
def hasMark (text : String) (parts : List PartLayout) : Bool :=
  parts.any fun
    | mark t => t = text
    | _ => false

/-- The parts behind the first such mark, if there is one. -/
def behindMark (text : String) (parts : List PartLayout) : List PartLayout :=
  (parts.dropWhile fun
    | mark t => t ≠ text
    | _ => true).drop 1

/-- The parts in front of the first such mark. -/
def beforeMark (text : String) (parts : List PartLayout) : List PartLayout :=
  parts.takeWhile fun
    | mark t => t ≠ text
    | _ => true

/-- The layout of the attributes among some parts that are `inner` or not. -/
def attrDocs (inner : Bool) (parts : List PartLayout) : List Doc :=
  parts.flatMap fun
    | attr i docs => if i = inner then docs else []
    | _ => []

/-- The label at the beginning of some parts. -/
def labelDocs (parts : List PartLayout) : List Doc :=
  parts.flatMap fun
    | lifetime name => [.text ("'" ++ name), .text ": "]
    | _ => []

/-- The path with which some parts begin. -/
def pathDocs (parts : List PartLayout) : List Doc :=
  (parts.findSome? fun
    | piece d => some d
    | ty _ d _ => some d
    | simple p => some p.docs
    | _ => none).getD []

/-- The path with which some parts begin, without the type in angle brackets. -/
def barePathDocs (parts : List PartLayout) : List Doc :=
  (parts.findSome? fun
    | ty _ _ d => some d
    | _ => none).getD (pathDocs parts)

/-- The type among some parts. -/
def typeDocs (parts : List PartLayout) : List Doc :=
  (parts.findSome? fun
    | ty d _ _ => some d
    | piece d => some d
    | _ => none).getD []

/-- The generic arguments of a method call. -/
def argDocs (parts : List PartLayout) : List Doc :=
  (parts.findSome? fun
    | piece d => some d
    | _ => none).getD []

/-- The bounds among some parts. -/
def boundDocs (parts : List PartLayout) : List (List Doc) :=
  (parts.findSome? fun
    | bounds items => some items
    | _ => none).getD []

/-- The conditions among some parts. -/
def conditionDocs (parts : List PartLayout) : List (List Doc) :=
  (parts.findSome? fun
    | conditions items => some items
    | _ => none).getD []

/-- The name of a member. -/
def memberText (parts : List PartLayout) : String :=
  (parts.findSome? fun
    | word t => some t
    | literal t => some t
    | _ => none).getD ""

/-- The layout of marks and names with code among them, blanks being put behind words. -/
def inRow (parts : List PartLayout) : List Doc :=
  parts.flatMap fun
    | mark t => [.text (if isWord t then t ++ " " else t)]
    | word t => [.text t]
    | literal t => [.text t]
    | lifetime name => [.text ("'" ++ name)]
    | code c => c.whole
    | ty d _ _ => d
    | piece d => d
    | simple p => p.docs
    | _ => []
where
  isWord (t : String) : Bool := t.toList.any Char.isAlpha

/-- The layout of the macro call that some parts spell, which may define something of a name. -/
def macroDocs (semicolon : Bool) (parts : List PartLayout) : List Doc :=
  let name := parts.findSome? fun
    | word t => some t
    | _ => none
  match parts.filter (fun | simple _ => true | group .. => true | _ => false) with
  | [simple path, group delim [raw body]] => macroCallDocs path name delim body semicolon
  | _ => [.refused]

end PartLayout

end PatternFactory
