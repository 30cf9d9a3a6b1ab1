import PatternFactory.Declaration.Marker
import PatternFactory.Diagnostic
import PatternFactory.Grammar.Spelling
import PatternFactory.Source

/-!
# Discovery

`SourceFile.discover` looks through the items of a source file, inline modules included, for the
marker of declarations.  Inherent impl blocks and inline modules are declarations; on anything else
the marker is ignored with a warning.  Each marked item gives one finding, in source order, an
inline module before its content.
-/

namespace PatternFactory

/-- The item that a declaration is made of. -/
inductive DeclarationItem where
  | impl (item : ImplItem)
  | module (name : String) (content : List Item)

namespace Ty

/-- Is the type a path, be it behind a type in angle brackets? -/
def isPath : Ty → Bool
  | path _ => true
  | qualified .. => true
  | _ => false

end Ty

/-- A declaration as it is found. -/
structure MarkedDeclaration where
  «namespace» : Namespace
  item : DeclarationItem
  origin : Origin
  nameOverride : Option String

namespace MarkedDeclaration

/-- The namespace, and the name given or the spelling of what is declared. -/
def key (d : MarkedDeclaration) : String :=
  let name := d.nameOverride.getD (match d.item with
    | .impl item => item.selfTy.text
    | .module name _ => name)
  d.namespace.text ++ "#" ++ name

/-- What tells declarations apart: their key and their place. -/
def identity (d : MarkedDeclaration) : String := d.key ++ "@" ++ d.origin.text

end MarkedDeclaration

/-- What comes of one marked item. -/
inductive Finding where
  | declared (declaration : MarkedDeclaration)
  | reported (diagnostic : Diagnostic)

namespace Finding

/-- The declaration, if it is one. -/
def declaration? : Finding → Option MarkedDeclaration
  | declared d => some d
  | reported _ => none

/-- The diagnostic, if it is one. -/
def diagnostic? : Finding → Option Diagnostic
  | declared _ => none
  | reported d => some d

end Finding

namespace Discovery

/-- A diagnostic about a place in a namespace. -/
def diagnostic (severity : Severity) (message : String) (rule : Option String) (ns : Namespace)
    (origin : Origin) : Diagnostic :=
  ⟨severity, message, ⟨ns.text, none, origin⟩, rule⟩

/-- The warning about a marker on something that is no declaration. -/
def misplaced (marker what : String) (ns : Namespace) (origin : Origin) : Finding :=
  .reported (diagnostic .warning
    ("#[" ++ marker ++ "] on a " ++ what
      ++ " is ignored; use an inherent impl block or an inline module") none ns origin)

/-- A declaration under its marker, or the error about the marker's arguments or about a self type
from which no name can be derived. -/
def declare (marker : String) (attr : Attr) (ns : Namespace) (item : DeclarationItem)
    (origin : Origin) : Finding :=
  match nameOverride attr with
  | .error fault =>
    .reported (diagnostic .error (fault.message marker) (some "marker arguments") ns origin)
  | .ok name =>
    match item, name with
    | .impl i, none =>
      if i.selfTy.isPath then .declared ⟨ns, item, origin, name⟩
      else
        .reported (diagnostic .error
          ("self type `" ++ i.selfTy.text ++ "` is not a path; use #[" ++ marker
            ++ "(name = \"...\")]") (some "unnamed self type") ns origin)
    | _, _ => .declared ⟨ns, item, origin, name⟩

/-- The name by which a data item is called in a warning. -/
def describe : DataKind → String
  | .struct_ => "struct"
  | .enum_ => "enum"
  | .trait_ => "trait"

end Discovery

open Discovery in
/-- The finding of an item by itself, if it is marked. -/
def Item.finding? (m : Markers) (file : PathName) (ns : Namespace) (item : Item) :
    Option Finding :=
  match item with
  | .impl i =>
    (m.onDeclaration? i.attrs).map fun attr =>
      if i.ofTrait.isSome then misplaced m.declaration "trait impl" ns ⟨file, i.line⟩
      else declare m.declaration attr ns (.impl i) ⟨file, i.line⟩
  | .module head content =>
    (m.onDeclaration? head.attrs).map fun attr =>
      declare m.declaration attr ns (.module head.name content) ⟨file, head.line⟩
  | .moduleFile head =>
    (m.onDeclaration? head.attrs).map fun _ =>
      misplaced m.declaration "out-of-line module" ns ⟨file, head.line⟩
  | .fn f =>
    (m.onDeclaration? f.attrs).map fun attr =>
      misplaced m.declaration "function" ns ⟨file, attr.pos.line⟩
  | .data kind attrs _ =>
    (m.onDeclaration? attrs).map fun attr =>
      misplaced m.declaration (describe kind) ns ⟨file, attr.pos.line⟩
  | .other _ => none

mutual

/-- The findings of an item and of what is inside of it. -/
def Item.findings (m : Markers) (file : PathName) (ns : Namespace) (item : Item) :
    List Finding :=
  match item with
  | .module head content =>
    ((Item.module head content).finding? m file ns).toList
      ++ Item.listFindings m file (ns.child head.name) content
  | item => (item.finding? m file ns).toList

/-- The findings of some items. -/
def Item.listFindings (m : Markers) (file : PathName) (ns : Namespace) : List Item → List Finding
  | [] => []
  | i :: rest => i.findings m file ns ++ Item.listFindings m file ns rest

end

namespace SourceFile

/-- The findings of a source file. -/
def findings (m : Markers) (s : SourceFile) : List Finding :=
  Item.listFindings m s.path s.namespace s.items

/-- The declarations of a source file. -/
def discover (m : Markers) (s : SourceFile) : List MarkedDeclaration :=
  (s.findings m).filterMap Finding.declaration?

/-- The diagnostics about the markers of a source file. -/
def markerDiagnostics (m : Markers) (s : SourceFile) : List Diagnostic :=
  (s.findings m).filterMap Finding.diagnostic?

end SourceFile

end PatternFactory
