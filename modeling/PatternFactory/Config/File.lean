import PatternFactory.Config.Basic
import PatternFactory.Failure
import PatternFactory.Toml.Decode

/-!
# Configuration files

A configuration file sets parts of the configuration; what it does not set is as in
`Config.standard`, and what it sets beyond that is ignored.
-/

namespace PatternFactory

namespace Config

/-- Sets the part of the configuration that has a name. -/
def set (c : Config) (name : String) (e : Toml.Element) : Except Toml.Fault Config :=
  match name with
  | "suffix" => do return { c with suffix := ← e.text }
  | "patterns_marker" => do return { c with declarationMarker := ← e.text }
  | "unapply_marker" => do return { c with extractorMarker := ← e.text }
  | "max_arity" => do return { c with arityLimit := ← e.count }
  | "max_rounds" => do return { c with roundLimit := ← e.count }
  | "runtime_path" => do return { c with runtimePath := ← e.text }
  | "exclude" => do return { c with exclude := ← e.texts }
  | _ =>
    match e.overflow? with
    | some fault => .error fault
    | none => .ok c

/-- The configuration that a table describes. -/
def ofTable (t : Toml.Table) : Except Toml.Fault Config :=
  (Toml.inOrder t.entries).foldlM (fun c e => c.set e.key.name e.element) standard

/-- The configuration that the text of a file describes. -/
def ofText (text : String) : Except Toml.Fault Config := do
  ofTable (← Toml.Document.ofText text)

/-- Fails if the configuration cannot be used. -/
def checked (c : Config) : Except Failure Config :=
  match c.validate with
  | .ok () => .ok c
  | .error fault => .error (.badConfig fault)

/-- Reads the text of a configuration file, which has to describe one that can be used. -/
def parse (text : String) : Except Failure Config :=
  match ofText text with
  | .ok c => c.checked
  | .error fault => .error (.badConfigFile (Toml.report text fault))

end Config

end PatternFactory
