import PatternFactory.Toml.Scalar

/-!
# Tables

The statements of a configuration file build up a table.  `Document.ofText` reads a file; its faults
are those of the structure first, then those of the keys, scalars and tables in their order.
-/

namespace PatternFactory

namespace Toml

/-- How a table comes about. -/
inductive TableKind where
  /-- By a header, or as the table of the whole file. -/
  | header
  /-- On the way to the table of a header. -/
  | implied
  /-- On the way to the last part of a key. -/
  | dotted
  /-- Between braces. -/
  | inline
  deriving DecidableEq, Repr

namespace TableKind

/-- May the table be extended by keys that lead through it? -/
def isImplicit (k : TableKind) : Bool := k = implied || k = dotted

end TableKind

mutual

/-- A value. -/
inductive Value where
  | scalar (s : Scalar)
  /-- An array; that of tables consists of tables with headers. -/
  | array (ofTables : Bool) (elements : List Element)
  | table (kind : TableKind) (entries : List Entry)

/-- A value and its place. -/
inductive Element where
  | mk (span : Span) (value : Value)

/-- An entry of a table. -/
inductive Entry where
  | mk (key : Key) (element : Element)

end

namespace Element

/-- The place. -/
def span : Element → Span
  | mk s _ => s

/-- The value. -/
def value : Element → Value
  | mk _ v => v

end Element

namespace Entry

/-- The key. -/
def key : Entry → Key
  | mk k _ => k

/-- The value and its place. -/
def element : Entry → Element
  | mk _ e => e

end Entry

namespace Value

/-- How a value of its kind is called. -/
def typeName : Value → String
  | scalar (.text _) => "string"
  | scalar (.boolean _) => "boolean"
  | scalar (.integer ..) => "integer"
  | scalar (.float _) => "float"
  | scalar .moment => "datetime"
  | array .. => "array"
  | table .inline _ => "inline table"
  | table .. => "table"

end Value

/-- A table. -/
structure Table where
  kind : TableKind
  entries : List Entry

namespace Table

/-- The table without entries. -/
def empty (kind : TableKind) : Table := ⟨kind, []⟩

/-- The table as a value. -/
def toValue (t : Table) : Value := .table t.kind t.entries

/-- The value of a key, with its place. -/
def find? (t : Table) (key : Key) : Option Element :=
  (t.entries.find? fun e => e.key.name = key.name).map Entry.element

/-- The table without a key. -/
def erase (t : Table) (key : Key) : Table :=
  { t with entries := t.entries.filter fun e => e.key.name ≠ key.name }

/-- The table with another value for a key. -/
def replace (t : Table) (key : Key) (e : Element) : Table :=
  { t with entries := t.entries.map fun old =>
      if old.key.name = key.name then .mk old.key e else old }

/-- The table with a further key. -/
def add (t : Table) (key : Key) (e : Element) : Table :=
  { t with entries := t.entries ++ [.mk key e] }

/-- The table with a key, which it must not have yet. -/
def insert (key : Key) (e : Element) (t : Table) : Except Fault Table :=
  match t.find? key with
  | some _ => .error ⟨key.span, .duplicate⟩
  | none => .ok (t.add key e)

/-- The last table of an array of tables, and what is in front of it. -/
def lastTable? (elements : List Element) : Option (List Element × Span × Table) :=
  match elements.getLast? with
  | some (.mk span (.table kind entries)) => some (elements.dropLast, span, ⟨kind, entries⟩)
  | _ => none

/-- Changes the table at the end of a path.  Tables that are missing on the way are made; `dotted`
says that the path is a part of a key and not of a header. -/
def within (dotted : Bool) (change : Table → Except Fault Table) :
    List Key → Table → Except Fault Table
  | [], t => change t
  | k :: path, t =>
    match t.find? k with
    | none => do
      let inner ← within dotted change path (empty (if dotted then .dotted else .implied))
      return t.add k (.mk k.span inner.toValue)
    | some e =>
      match e.value with
      | .table kind entries =>
        if kind = .inline then .error ⟨k.span, .notExtensible e.value.typeName⟩
        else if dotted && !kind.isImplicit then .error ⟨k.span, .duplicate⟩
        else do
          let inner ← within dotted change path ⟨kind, entries⟩
          return t.replace k (.mk e.span inner.toValue)
      | .array true elements =>
        match lastTable? elements with
        | some (before, span, last) => do
          let inner ← within dotted change path last
          return t.replace k (.mk e.span (.array true (before ++ [.mk span inner.toValue])))
        | none => .error ⟨k.span, .notExtensible e.value.typeName⟩
      | v => .error ⟨k.span, .notExtensible v.typeName⟩

/-- The table with the pair of a key, the last part of which is `key`, and a value. -/
def addPair (path : List Key) (key : Key) (e : Element) (t : Table) : Except Fault Table :=
  t.within true (fun t =>
    if (t.kind = .dotted) = (path = []) then .error ⟨key.span, .duplicate⟩ else t.insert key e) path

end Table

/-- The parts of a key in front of its last one, and the last one. -/
def splitKey (key : List Written) : Except Fault (List Key × Key) := do
  let parts ← key.mapM Written.key
  return (parts.dropLast, parts.getLast?.getD default)

/-! ### Values -/

mutual

/-- Reads a value. -/
def WrittenValue.element : WrittenValue → Except Fault Element
  | .scalar w => do return .mk w.span (.scalar (← w.scalar))
  | .array span values => do return .mk span (.array false (← WrittenValue.elements values))
  | .inlineTable span pairs => do
    return .mk span (← WrittenPair.collect pairs (.empty .inline)).toValue

/-- Reads values. -/
def WrittenValue.elements : List WrittenValue → Except Fault (List Element)
  | [] => .ok []
  | v :: vs => do
    let e ← v.element
    return e :: (← WrittenValue.elements vs)

/-- Puts pairs into a table. -/
def WrittenPair.collect : List WrittenPair → Table → Except Fault Table
  | [], t => .ok t
  | p :: ps, t => do WrittenPair.collect ps (← p.addTo t)

/-- Puts a pair into a table. -/
def WrittenPair.addTo : WrittenPair → Table → Except Fault Table
  | .mk key value, t => do
    let (path, key) ← splitKey key
    t.addPair path key (← value.element)

end

/-! ### Documents -/

/-- A table header. -/
structure Header where
  isArray : Bool
  span : Span
  path : List Key
  key : Key
  deriving DecidableEq, Repr

/-- A file as far as it is read: the table of the whole file, and the table to which pairs are
added, with its header.  Without a header that is the table of the whole file. -/
structure Document where
  root : Table
  header : Option Header
  current : Table

namespace Document

/-- Nothing is read. -/
def start : Document := ⟨.empty .header, none, .empty .header⟩

/-- Adds a table to the array of tables of a key. -/
def addToArray (h : Header) (new : Table) (t : Table) : Except Fault Table :=
  let element := Element.mk h.span new.toValue
  match t.find? h.key with
  | none => .ok (t.add h.key (.mk h.span (.array true [element])))
  | some (.mk span (.array true elements)) =>
    .ok (t.replace h.key (.mk ⟨span.start, h.span.stop⟩ (.array true (elements ++ [element]))))
  | some _ => .error ⟨h.key.span, .duplicate⟩

/-- Puts the table to which pairs were added into the table of the whole file. -/
def close (d : Document) : Except Fault Table :=
  match d.header with
  | none => .ok d.current
  | some h =>
    if h.isArray then d.root.within false (addToArray h d.current) h.path
    else d.root.within false (Table.insert h.key (.mk h.span d.current.toValue)) h.path

/-- The table of a header as it is, if it was implied by other headers.  Otherwise there must not be
one. -/
def opened (h : Header) (t : Table) : Except Fault Table :=
  match t.find? h.key with
  | none => .ok (.empty .header)
  | some e =>
    match e.value with
    | .table .implied entries => .ok ⟨.header, entries⟩
    | _ => .error ⟨h.key.span, .duplicate⟩

/-- The table at the end of a path, in which a path that is missing is made. -/
def tableAt? (path : List Key) (t : Table) : Option Table :=
  match path with
  | [] => some t
  | k :: path =>
    match (t.find? k).map Element.value with
    | some (.table kind entries) => tableAt? path ⟨kind, entries⟩
    | some (.array _ elements) =>
      match Table.lastTable? elements with
      | some (_, _, last) => tableAt? path last
      | none => none
    | _ => none

/-- Begins the table of a header. -/
def openTable (h : Header) (root : Table) : Except Fault Document :=
  if h.isArray then .ok ⟨root, some h, .empty .header⟩
  else do
    let table ← root.within false .ok h.path
    match tableAt? h.path table with
    | some parent =>
      let current ← opened h parent
      return ⟨← table.within false (fun t => .ok (t.erase h.key)) h.path, some h, current⟩
    | none => return ⟨table, some h, .empty .header⟩

/-- Reads a statement. -/
def add (d : Document) : Statement → Except Fault Document
  | .pair p => do return { d with current := ← p.addTo d.current }
  | .header isArray span key => do
    let root ← d.close
    let (path, key) ← splitKey key
    openTable ⟨isArray, span, path, key⟩ root

/-- The table of a file. -/
def ofText (text : String) : Except Fault Table := do
  (← (← statements text).foldlM add start).close

end Document

end Toml

end PatternFactory
