import PatternFactory.Layout.Item
import PatternFactory.Layout.Pattern
import PatternFactory.Token.IntegerLiteral

/-!
# Layout of code

`CodeLayout.ofParts` lays out a piece of code from the layouts of its parts.
-/

namespace PatternFactory

namespace CodeLayout

open Doc PartLayout

/-! ### Blocks and bodies -/

/-- A block with the content `docs`, which may be empty. -/
def braced (docs : List Doc) : List Doc :=
  [.text "\x7b"] ++ (if docs.isEmpty then [] else outdent docs) ++ [.text "\x7d"]

/-- A block whose content stands on lines of its own. -/
def bracedLines (inside : List Doc) : List Doc :=
  .text "\x7b" :: seam :: rigid step (outdent (newlineInside :: inside)) ++ [.text "\x7d"]

/-- A block around an expression. -/
def bracedExpr (indent : Int) (atStart : List Doc) : List Doc :=
  braced (space :: filled indent atStart ++ [space])

/-- An expression that gets braces, or parentheses if it means something else in braces, if it does
not fit on the line.  `behind` is written behind parentheses and `instead` if nothing is put around
the expression. -/
def wrapped (c : CodeLayout) (docs : List Doc) (behind instead : String) : List Doc :=
  let first : Break := { plainBreak 0 with before := if c.isBraceable then "\x7b" else "(" }
  let last : Break := { plainBreak 0 with
    offset := -step
    before := if c.isBraceable && c.getsSemicolon then ";" else ""
    after := if c.isBraceable then "\x7d" else ")" ++ behind
    instead := instead }
  rigid step (.line first :: docs ++ [.line last])

/-- What stands behind the arrow of an arm. -/
def armBody (c : CodeLayout) : List Doc :=
  match c.armBlock with
  | some docs => docs
  | none =>
    let needsComma := !c.isStatement || c.kind = .macroCall
    seam :: c.wrapped c.atStart "," (if needsComma then "," else "")

/-- The body of a closure. -/
def closureBody (c : CodeLayout) : List Doc :=
  if c.hugs || (!c.hasAttrs && (c.kind = .match_ || c.kind = .call)) then c.whole
  else c.wrapped c.whole "" ""

/-- An expression as a statement without a semicolon. -/
def tailStatement (atStart : List Doc) (getsSemicolon : Bool) : List Doc :=
  filled 0 (atStart ++ if getsSemicolon then [.text ";"] else []) ++ [newline]

/-! ### Kinds of layouts -/

/-- Code with nothing special about it, of which the form at the beginning of a line and as the head
of a chain may be given. -/
def make (kind : CodeKind) (docs : List Doc) (atStart : List Doc) (chain : Bool → List Doc) :
    CodeLayout where
  kind := kind
  whole := docs
  atStart := atStart
  chain := chain
  hasAttrs := false
  isShortName := false
  hugs := false
  isBraceable := true
  isStatement := false
  getsSemicolon := false
  losesSemicolon := false
  freesBrace := false
  isSimple := false
  inside := []
  lines := []
  block := []
  elseBranch := bracedExpr step atStart
  armBlock := none
  statement := fun _ => tailStatement atStart false
  sole := none

/-- Code with nothing special about it. -/
def ofDocs (kind : CodeKind) (docs : List Doc) : CodeLayout :=
  make kind docs docs fun _ => rigid (-step) docs

/-- A statement or an item with a line of its own. -/
def ofLines (kind : CodeKind) (docs : Bool → List Doc) : CodeLayout :=
  { ofDocs kind (docs false) with statement := docs }

/-- A suffix in a box of its own: `link` writes the head and the suffix, at the beginning of a line
or not. -/
def ofLink (kind : CodeKind) (link : Bool → List Doc) : CodeLayout :=
  make kind (rigid step (link false)) (rigid step (link true)) link

/-- A suffix that is glued to the head. -/
def ofSuffix (kind : CodeKind) (head : CodeLayout) (suffix : List Doc) : CodeLayout :=
  make kind (head.whole ++ suffix) (head.atStart ++ suffix) fun b => head.chain b ++ suffix

/-- Code that is a statement of its own. -/
def ofStatement (kind : CodeKind) (docs : List Doc) : CodeLayout :=
  { ofDocs kind docs with isStatement := true }

/-- Puts attributes in front of code.  A block in an arm is written without them. -/
def withAttrs (attrs : List Doc) (c : CodeLayout) : CodeLayout :=
  { c with
    whole := attrs ++ c.whole
    atStart := attrs ++ c.atStart
    chain := fun b => attrs ++ c.chain b
    hasAttrs := true
    isShortName := false
    hugs := false
    armBlock := if c.kind = .block then some c.lines else none }

/-! ### Suffixes -/

/-- Does the text at the end of some code end with a dot? -/
def endsWithDot (c : CodeLayout) : Bool :=
  match c.whole.getLast? with
  | some (.text t) => t.endsWith "."
  | _ => false

/-- Where the line may end in front of a dot; one dot does not follow another one directly. -/
def dotCut (head : CodeLayout) (atStart : Bool) : List Doc :=
  if atStart && head.isShortName then []
  else if head.endsWithDot then [.line { plainBreak 0 with instead := " " }]
  else [cut]

/-- The arguments of a call. -/
def callArgs (args : List CodeLayout) : List Doc :=
  match args with
  | [a] => if a.hugs then a.whole else list step [a.whole]
  | _ => list step (wholes args)

/-- A condition in front of a brace. -/
def condition (c : CodeLayout) : List Doc :=
  rigid 0 (c.whole ++ [if c.freesBrace then space else .text " "])

/-- A method call. -/
def ofMethodCall (head : CodeLayout) (parts : List PartLayout) : CodeLayout :=
  let link (unindent : Bool) (b : Bool) : List Doc :=
    head.chain b ++ dotCut head b ++ .text "." :: .text (memberText parts) :: argDocs parts
      ++ rigid (if unindent then -step else 0)
        (.text "(" :: callArgs (groupCodes parts) ++ [.text ")"])
  { make .methodCall (rigid step (link false false)) (rigid step (link head.isShortName true))
      (link false) with
    isBraceable := head.isBraceable
    freesBrace := true }

/-! ### Operators -/

/-- Is it braceable with the code that it begins with? -/
def leadsBraceable (c : CodeLayout) : Bool := !c.isStatement && c.isBraceable

/-- Code behind dots; dots do not follow dots directly. -/
def behindDots (c : CodeLayout) : List Doc :=
  match c.whole with
  | .text t :: _ => if t.startsWith "." then .text " " :: c.whole else c.whole
  | _ => c.whole

/-- A range. -/
def ofRange (parts : List PartLayout) : CodeLayout :=
  let start := codes (beforeMark ".." (beforeMark "..=" parts))
  let stop := (codes parts).drop start.length
  let limits := if hasMark "..=" parts then "..=" else ".."
  { ofDocs .range (start.flatMap whole ++ .text limits :: stop.flatMap behindDots) with
    isBraceable := start.all leadsBraceable
    freesBrace := stop.any freesBrace }

/-- An operator between two operands. -/
def ofBinary (l r : CodeLayout) (op : String) : CodeLayout :=
  { ofDocs .binary
      (filled step (filled (-step) l.whole ++ space :: .text op :: .text " " :: r.whole)) with
    isBraceable := l.leadsBraceable
    getsSemicolon := op.endsWith "=" && op ∉ ["==", "!=", "<=", ">="]
    freesBrace := true }

/-- A word with a label or a value behind it, such as `break`. -/
def ofJump (kind : CodeKind) (word : String) (parts : List PartLayout) : CodeLayout :=
  let behind := parts.flatMap fun
    | .lifetime name => [.text " ", .text ("'" ++ name)]
    | .code c => .text " " :: c.whole
    | _ => []
  { ofDocs kind (.text word :: behind) with
    getsSemicolon := true
    freesBrace := (codes parts).any freesBrace }

/-! ### Atoms -/

/-- Is the text a byte, a character, an integer or a truth value? -/
def isSimpleLiteral (text : String) : Bool :=
  text.startsWith "'" || text.startsWith "b'" || text = "true" || text = "false"
    || isIntLiteral text

/-- Items with commas between them on lines that are filled. -/
def commaFilled : List (List Doc) → List Doc
  | [] => []
  | [d] => d
  | d :: rest => d ++ .text "," :: space :: commaFilled rest

/-- An array. -/
def ofArray (elems : List CodeLayout) : CodeLayout :=
  let docs :=
    if elems.isEmpty then [.text "[]"]
    else if elems.all isSimple then
      rigid step (.text "[" :: cut :: filled 0 (commaFilled (wholes elems))
        ++ outdent [lastComma 0] ++ [.text "]"])
    else .text "[" :: list step (wholes elems) ++ [.text "]"]
  { ofDocs .array docs with hugs := true }

/-- A tuple; without elements it is a block in an arm. -/
def ofTuple (elems : List CodeLayout) : CodeLayout :=
  { ofDocs .tuple (.text "(" :: tuple (wholes elems) ++ [.text ")"]) with
    hugs := true
    armBlock := if elems.isEmpty then some (bracedLines []) else none }

/-- A block behind its label. -/
def ofBlock (label : List Doc) (parts : List PartLayout) : CodeLayout :=
  let attrs := attrDocs true parts
  let stmts := codes parts
  let inside := attrs ++ statements stmts
  let small := match stmts with
    | [] => if attrs.isEmpty then braced [] else braced (space :: attrs)
    | [s] => braced (space :: attrs ++ match s.sole with
      | some (docs, _) => docs
      | none => s.statement true)
    | _ => braced (space :: inside)
  let lone := match stmts with
    | [s] => if label.isEmpty && attrs.isEmpty then s.sole.map Prod.snd else none
    | _ => none
  let lines := label ++ bracedLines inside
  { ofStatement .block (label ++ rigid step small) with
    hugs := true
    inside := inside
    lines := lines
    block := small
    elseBranch := small
    armBlock := some (lone.getD lines) }

/-- A keyword with a block behind it. -/
def ofKeyword (kind : CodeKind) (keyword : String) (block : CodeLayout) : CodeLayout :=
  let docs := .text keyword :: rigid step block.block
  match kind with
  | .async => { ofDocs kind docs with hugs := true }
  | .tryBlock => ofStatement kind docs
  | _ => { ofStatement kind docs with hugs := true }

/-- A closure. -/
def ofClosure (parts : List PartLayout) : CodeLayout :=
  let head := beforeMark "|" parts
  let params := beforeMark "|" (behindMark "|" parts)
  let behind := behindMark "|" (behindMark "|" parts)
  let front := head.flatMap fun
    | .piece d => d
    | .mark t => [.text (t ++ " ")]
    | _ => []
  let patterns := paramDocs [] params
  let cutIf := if patterns.isEmpty then [] else [cut]
  let docs := match codes behind, hasMark "->" behind with
    | [body], false =>
      rigid step (outdent (.text "|" :: cutIf ++ commaFilled patterns ++ [.text "|", space]))
        ++ seam :: closureBody body
    | [body], true =>
      rigid step ((.text "|" :: cutIf ++ commaFilled patterns)
        ++ (if patterns.isEmpty then [] else outdent [lastComma 0]) ++ [.text "|"])
        ++ .text " -> " :: typeDocs behind ++ [.text " ", seam] ++ rigid step body.block
    | _, _ => [.refused]
  { ofDocs .closure (filled 0 (front ++ docs)) with hugs := true }
where
  /-- The parameters behind their attributes. -/
  paramDocs (attrs : List Doc) : List PartLayout → List (List Doc)
    | [] => []
    | .attr _ docs :: rest => paramDocs (attrs ++ docs) rest
    | .code c :: rest => (attrs ++ c.whole) :: paramDocs [] rest
    | _ :: rest => paramDocs attrs rest

/-- A struct expression; the base stands behind the fields. -/
def ofStruct (parts : List PartLayout) : CodeLayout :=
  let items := groupCodes parts
  let named := items.filter fun c => c.kind = .fieldValue
  let base := (items.find? fun c => c.kind ≠ .fieldValue).map fun c => .text ".." :: c.behindDots
  { ofDocs .struct_ (structDocs true (filled (-step) (pathDocs parts)) (fields named base)) with
    hugs := true }

/-! ### Branches and loops -/

/-- An `if` with its branches. -/
def ofIf (cond thenBlock : CodeLayout) (other : Option CodeLayout) : CodeLayout :=
  let head := .text "if " :: rigid (-step) cond.condition
  let tail := match other with
    | some c => .text " else " :: c.elseBranch
    | none => []
  let docs := match other with
    | some _ => head ++ thenBlock.block ++ tail
    | none =>
      head ++ braced (if thenBlock.inside.isEmpty then [] else newline :: thenBlock.inside)
  { ofStatement .if_ (rigid step docs) with
    losesSemicolon := (other.map losesSemicolon).getD true
    elseBranch := head ++ thenBlock.block ++ tail }

/-- A loop. -/
def ofLoop (kind : CodeKind) (docs : List Doc) : CodeLayout :=
  { ofStatement kind docs with losesSemicolon := kind ≠ .loop }

/-- A `match` with its arms. -/
def ofMatch (subject : CodeLayout) (parts : List PartLayout) : CodeLayout :=
  let inside := (group? parts).getD []
  let arms := (codes inside).flatMap fun a => a.whole ++ [newline]
  ofStatement .match_ (filled 0 (.text "match " :: subject.condition ++ .text "\x7b" :: seam
    :: rigid step (outdent (newlineInside :: attrDocs true inside ++ arms)) ++ [.text "\x7d"]))

/-- An arm of a `match`. -/
def ofArm (pat : CodeLayout) (rest : List CodeLayout) (parts : List PartLayout) : CodeLayout :=
  let guard := if hasMark "if" parts then (rest.take 1).map whole else []
  let body := (rest.getLast?.map armBody).getD [.refused]
  ofDocs .arm (attrDocs false parts ++ filled 0 (pat.whole
    ++ guard.flatMap (fun d => .text " if " :: d) ++ .text " => " :: body))

/-! ### Statements -/

/-- A binding. -/
def localDocs (parts : List PartLayout) : List Doc :=
  let target := beforeMark "=" parts
  let pattern := match codes target with
    | [p] => p.whole
    | _ => [.refused]
  let typed := if hasMark ":" target then .text ": " :: typeDocs (behindMark ":" target) else []
  let head := .text "let " :: pattern ++ typed
  attrDocs false parts ++ match codes (behindMark "=" parts) with
  | [] => filled 0 head ++ [.text ";", newline]
  | [value] => filled 0 (head ++ .text " = " :: seam :: value.whole) ++ [.text ";", newline]
  | value :: other :: _ =>
    filled 0 (head ++ .text " = " :: seam :: value.whole ++ [space, .text "else "])
      ++ seam :: rigid step other.block ++ [.text ";", newline]

/-- A macro call as a statement. -/
def macroStatement (parts : List PartLayout) (isLast : Bool) : List Doc :=
  let semicolon := hasMark ";" parts || (!isLast && !hasBraces parts)
  attrDocs false parts ++ macroDocs semicolon parts ++ [newline]

/-- An expression as a statement without a semicolon. -/
def ofTail (c : CodeLayout) : CodeLayout :=
  { ofLines .exprStmt (fun _ => tailStatement c.atStart c.getsSemicolon) with
    sole := some (filled 0 c.atStart ++ [space], c.armBody) }

/-! ### All code -/

/-- Lays out code of some kind from its parts. -/
def ofParts (kind : CodeKind) (parts : List PartLayout) : CodeLayout :=
  let cs := codes parts
  match kind, cs with
  | .array, _ => ofArray (groupCodes parts)
  | .assign, [l, r] =>
    { ofDocs kind (filled 0 (l.whole ++ .text " = " :: seam :: r.whole)) with
      isBraceable := l.leadsBraceable
      getsSemicolon := true
      freesBrace := true }
  | .async, [b] => ofKeyword kind (if hasMark "move" parts then "async move " else "async ") b
  | .attributed, [c] => withAttrs (attrDocs false parts) c
  | .await, [c] =>
    { ofLink kind (fun b => c.chain b ++ dotCut c b ++ [.text ".await"]) with
      isBraceable := c.isBraceable
      freesBrace := true }
  | .binary, [l, r] =>
    ofBinary l r ((parts.findSome? fun
      | .mark t => some t
      | _ => none).getD "")
  | .block, _ => ofBlock (labelDocs parts) ((group? parts).getD [])
  | .break_, _ => ofJump kind "break" parts
  | .call, f :: _ =>
    { ofSuffix kind f (.text "(" :: callArgs (groupCodes parts) ++ [.text ")"]) with
      isBraceable := f.leadsBraceable
      freesBrace := f.freesBrace }
  | .cast, [c] =>
    { ofDocs kind
        (filled step (filled (-step) c.whole ++ space :: .text "as " :: typeDocs parts)) with
      isBraceable := c.leadsBraceable
      freesBrace := true }
  | .closure, _ => ofClosure parts
  | .const_, [b] => ofKeyword kind "const " b
  | .continue_, _ => ofJump kind "continue" parts
  | .field, [c] =>
    { ofLink kind (fun b => c.chain b ++ dotCut c b ++ [.text ".", .text (memberText parts)]) with
      isBraceable := c.isBraceable
      freesBrace := true }
  | .forLoop, [pat, source, body] =>
    ofLoop kind (filled 0 (labelDocs parts ++ .text "for " :: pat.whole ++ .text " in " :: seam
      :: source.condition ++ body.lines))
  | .if_, [cond, block] => ofIf cond block none
  | .if_, [cond, block, other] => ofIf cond block (some other)
  | .index, c :: _ =>
    { ofSuffix kind c (.text "[" :: (groupCodes parts).flatMap whole ++ [.text "]"]) with
      isBraceable := c.leadsBraceable
      freesBrace := true }
  | .infer, _ => ofDocs kind [.text "_"]
  | .let_, [pat, value] =>
    { ofDocs kind (filled 0 (.text "let " :: filled 0 pat.whole ++ .text " = " :: seam
        :: filled 0 value.whole)) with
      isBraceable := false
      freesBrace := value.freesBrace }
  | .literal, _ =>
    let text := memberText parts
    { ofDocs kind [.text text] with isSimple := isSimpleLiteral text }
  | .loop, [body] =>
    ofLoop kind (labelDocs parts ++ .text "loop \x7b"
      :: rigid step (outdent (newlineInside :: body.inside)) ++ [.text "\x7d"])
  | .macroCall, _ => { ofDocs kind (macroDocs false parts) with isStatement := hasBraces parts }
  | .match_, [subject] => ofMatch subject parts
  | .methodCall, c :: _ => ofMethodCall c parts
  | .paren, _ =>
    let inside := groupCodes parts
    { ofDocs kind (.text "(" :: inside.flatMap whole ++ [.text ")"]) with
      freesBrace := inside.any freesBrace }
  | .path, _ =>
    let docs := pathDocs parts
    { ofDocs kind docs with
      isShortName := match docs with
        | [.text name] => name.utf8ByteSize ≤ 4
        | _ => false }
  | .range, _ => ofRange parts
  | .rawAddress, [c] =>
    { ofDocs kind (.text "&" :: inRow (parts.drop 1)) with freesBrace := c.freesBrace }
  | .reference, [c] => { ofDocs kind (inRow parts) with freesBrace := c.freesBrace }
  | .repeat_, _ =>
    ofDocs kind (.text "[" :: joined "; " (wholes (groupCodes parts)) ++ [.text "]"])
  | .return_, _ => ofJump kind "return" parts
  | .struct_, _ => ofStruct parts
  | .try_, [c] =>
    { ofSuffix kind c [.text "?"] with isBraceable := c.isBraceable, freesBrace := c.freesBrace }
  | .tryBlock, [b] => ofKeyword kind "try " b
  | .tuple, _ => ofTuple (groupCodes parts)
  | .unary, [c] => { ofDocs kind (inRow parts) with freesBrace := c.freesBrace }
  | .unsafe_, [b] => ofKeyword kind "unsafe " b
  | .while_, [cond, body] =>
    ofLoop kind (labelDocs parts ++ .text "while " :: cond.condition ++ body.lines)
  | .yield_, _ => ofJump kind "yield" parts
  | .arm, pat :: rest => ofArm pat rest parts
  | .fieldValue, _ =>
    ofDocs kind (attrDocs false parts ++ .text (memberText parts)
      :: cs.flatMap fun c => .text ": " :: filled 0 c.whole)
  | .emptyStmt, _ => ofLines kind fun _ => []
  | .exprStmt, [c] => ofTail c
  | .itemStmt, [c] => ofLines kind fun _ => c.whole
  | .localStmt, _ => ofLines kind fun _ => localDocs parts
  | .macroStmt, _ => ofLines kind (macroStatement parts)
  | .semiStmt, [c] =>
    ofLines kind fun _ =>
      filled 0 (c.atStart ++ if c.losesSemicolon then [] else [.text ";"]) ++ [newline]
  | _, _ => ofDocs kind ((patternDocs? kind parts).getD (itemDocs kind parts))

end CodeLayout

end PatternFactory
