/-!
# Documents

A document is text with places where a line may end, in nested boxes.  Laying it out decides which
of these places end a line: a box that fits into what is left of the line ends none of them, a rigid
box that does not fit ends all of them, and any other box ends one only if what follows up to the
next such place does not fit.

`Doc.ahead` is the distance from a place to the next one at which the line may end, where the boxes
behind count as solid; `Doc.printAll` writes the text.  Widths are counted in bytes.
-/

namespace PatternFactory

/-- A place where a line may end. -/
structure Break where
  /-- What is added to the indentation of the next line. -/
  offset : Int
  /-- The number of blanks when the line goes on. -/
  blanks : Nat
  /-- What is written at the end of the line, if it ends here. -/
  before : String
  /-- What is written at the beginning of the next line, if the line ends here. -/
  after : String
  /-- What is written if the line goes on. -/
  instead : String
  /-- Does the place vanish at the end of a box? -/
  inner : Bool
  /-- Does the line go on in any case? -/
  solid : Bool

/-- A piece of a document. -/
inductive Doc where
  | text (text : String)
  | line (place : Break)
  /-- A box, whose lines are indented by `offset` if it is broken. -/
  | box (offset : Int) (rigid : Bool) (parts : List Doc)
  /-- Nothing, but too wide for any line. -/
  | wide
  /-- Something that cannot be written. -/
  | refused

namespace Doc

/-- A width that fits into no line. -/
def infinite : Nat := 0xffff

/-- The widest line, as long as there is a place to end it. -/
def margin : Int := 89

/-- The room that is left on a line however deep it is indented. -/
def leastRoom : Int := 60

/-- The indentation step. -/
def step : Int := 4

/-! ### Widths -/

mutual

/-- The width of a piece on a line of its own. -/
def width : Doc → Nat
  | .text s => s.utf8ByteSize
  | .line b => b.blanks
  | .box _ _ parts => widthAll parts
  | .wide => infinite
  | .refused => 0

/-- The width of some pieces. -/
def widthAll : List Doc → Nat
  | [] => 0
  | d :: rest => d.width + widthAll rest

end

/-- The distance to the next place where the line may end, which is `behind` away from the end of
the pieces if there is none among them. -/
def ahead (behind : Nat) : List Doc → Nat
  | [] => behind
  | .line _ :: _ => 0
  | d :: rest => d.width + ahead behind rest

/-! ### Writing -/

/-- A page that is being written. -/
structure Page where
  text : String
  indent : Int
  /-- Blanks that are written in front of the next text. -/
  pending : Nat
  /-- The room that is left on the line. -/
  room : Int

namespace Page

/-- The empty page. -/
def empty : Page := ⟨"", 0, 0, margin⟩

/-- Writes the pending blanks. -/
def settle (p : Page) : Page :=
  { p with text := p.text ++ String.ofList (List.replicate p.pending ' '), pending := 0 }

/-- Writes a text. -/
def write (p : Page) (s : String) : Page :=
  let p := p.settle
  { p with text := p.text ++ s, room := p.room - s.utf8ByteSize }

/-- Goes on with the line. -/
def goOn (p : Page) (b : Break) : Page :=
  { p with
    text := p.text ++ b.instead
    pending := p.pending + b.blanks
    room := p.room - b.blanks - b.instead.utf8ByteSize }

/-- Ends the line. -/
def newline (p : Page) (b : Break) : Page :=
  let p := if b.before.isEmpty then p else p.settle
  let indent := p.indent + b.offset
  let p : Page :=
    { text := p.text ++ b.before ++ "\n", indent := p.indent, pending := indent.toNat
      room := max (margin - indent) leastRoom }
  if b.after.isEmpty then p else p.write b.after

end Page

/-- The state of a box that is being written. -/
inductive Frame where
  | fits
  | broken (rigid : Bool)

/-- Does the line go on at a place from which the next one is `distance` away? -/
def Frame.goesOn (frame : Frame) (b : Break) (distance : Nat) (room : Int) : Bool :=
  b.solid || match frame with
    | .fits => true
    | .broken rigid => !rigid && distance ≤ room

mutual

/-- Writes a piece behind which the next place to end the line is `behind` away. -/
def print (frame : Frame) (behind : Nat) (d : Doc) (p : Page) : Page :=
  match d with
  | .text s => p.write s
  | .line b =>
    if frame.goesOn b (b.blanks + behind) p.room then p.goOn b else p.newline b
  | .box offset rigid parts =>
    if p.room < widthAll parts + behind then
      let q := printAll (.broken rigid) behind parts { p with indent := p.indent + offset }
      { q with indent := p.indent }
    else printAll .fits behind parts p
  | .wide => p
  | .refused => p

/-- Writes some pieces behind which the next place to end the line is `behind` away. -/
def printAll (frame : Frame) (behind : Nat) (docs : List Doc) (p : Page) : Page :=
  match docs with
  | [] => p
  | d :: rest => printAll frame behind rest (print frame (ahead behind rest) d p)

end

mutual

/-- Can the piece be written? -/
def isWhole : Doc → Bool
  | .box _ _ parts => areWhole parts
  | .refused => false
  | _ => true

/-- Can the pieces be written? -/
def areWhole : List Doc → Bool
  | [] => true
  | d :: rest => d.isWhole && areWhole rest

end

/-- Writes a document, if that is possible. -/
def render? (docs : List Doc) : Option String :=
  if areWhole docs then some (printAll (.broken false) 0 docs .empty).text else none

/-! ### Building documents -/

/-- A place with nothing special about it. -/
def plainBreak (blanks : Nat) : Break := ⟨0, blanks, "", "", "", false, false⟩

/-- A place for the end of a line, without a blank. -/
def cut : Doc := .line (plainBreak 0)

/-- A blank or the end of a line. -/
def space : Doc := .line (plainBreak 1)

/-- The end of a line. -/
def newline : Doc := .line (plainBreak infinite)

/-- The end of a line, unless nothing follows in the box. -/
def newlineInside : Doc := .line { plainBreak infinite with inner := true }

/-- A blank or the end of a line, unless nothing follows in the box. -/
def spaceInside : Doc := .line { plainBreak 1 with inner := true }

/-- Keeps what stands on both sides of it apart as far as widths are concerned. -/
def seam : Doc := .line { plainBreak 0 with solid := true }

/-- A comma that is written only at the end of a line. -/
def lastComma (blanks : Nat) : Doc := .line { plainBreak blanks with before := "," }

/-- The content of a box, without an inner place at its end. -/
def content (docs : List Doc) : List Doc :=
  match docs.getLast? with
  | some (.line b) => if b.inner then docs.dropLast else docs
  | _ => docs

/-- A box, unless a place to end the line is all that it holds. -/
def boxed (offset : Int) (rigid : Bool) (docs : List Doc) : List Doc :=
  match docs with
  | [.line _] => []
  | _ => [.box offset rigid (content docs)]

/-- A box in which all lines end or none. -/
def rigid (offset : Int) (docs : List Doc) : List Doc := boxed offset true docs

/-- A box whose lines are filled. -/
def filled (offset : Int) (docs : List Doc) : List Doc := boxed offset false docs

/-- A rigid box that is broken if it is wider than `limit`. -/
def narrow (offset : Int) (limit : Nat) (docs : List Doc) : List Doc :=
  if limit < widthAll docs then [.box offset true (docs ++ [.wide])] else rigid offset docs

/-- Puts the end of the line, which comes last, back to the indentation outside of the box. -/
def outdent (docs : List Doc) : List Doc :=
  match docs.getLast? with
  | some (.line b) => docs.dropLast ++ [.line { b with offset := b.offset - step }]
  | _ => docs

/-- Items with commas behind them.  Behind the last one the comma is written only if the line ends
there; `blanks` stand there otherwise. -/
def commas (blanks : Nat) : List (List Doc) → List Doc
  | [] => []
  | [d] => d ++ [lastComma blanks]
  | d :: rest => d ++ [.text ",", space] ++ commas blanks rest

/-- A list in a box: on one line, or each item on a line of its own. -/
def list (offset : Int) (items : List (List Doc)) : List Doc :=
  rigid offset (outdent (cut :: commas 0 items))

/-- The items of a tuple; a single one has a comma behind it. -/
def tuple (items : List (List Doc)) : List Doc :=
  match items with
  | [d] => rigid step (outdent (cut :: d ++ [.text ",", cut]))
  | _ => list step items

/-- Items with the same text between them. -/
def joined (separator : String) : List (List Doc) → List Doc
  | [] => []
  | [d] => d
  | d :: rest => d ++ .text separator :: joined separator rest

/-- Items, the first behind `first` and each other one behind a blank and `next`. -/
def led (first next : String) : List (List Doc) → List Doc
  | [] => []
  | d :: rest => .text first :: d ++ rest.flatMap fun e => space :: .text next :: e

end Doc

end PatternFactory
