import PatternFactory.Config.Basic
import PatternFactory.Factory.Spelling
import PatternFactory.Layout.Unit

/-!
# Rendering units

A renderer writes the text of the unit that belongs to a declaration.  The standard renderer spells
the unit out, reads the tokens back as items and lays these out.  Reading back may fail, because a
type or the path of the runtime may stand in a place where the grammar takes something else there;
then there is no text.
-/

namespace PatternFactory

/-- Writes the text of the unit of a given name for a declaration, if that can be done. -/
abbrev Renderer := String → Declaration → Option String

/-- Is the text exactly one word? -/
def isOneWord (text : String) : Bool :=
  match Tokens.ofText text with
  | .ok [.word w _] => w = text
  | _ => false

/-- The first lines of a unit. -/
def unitHeader : String := "// @generated by patgen. Do not edit.\n\n"

namespace Declaration

/-- The items of the unit of the given name. -/
def unitItems? (rt : Path) (name : String) (d : Declaration) : Option (List Item) :=
  if isOneWord name then (Tokens.read (d.unitTokens rt name) File.items).toOption else none

end Declaration

/-- The renderer for the runtime under the path `rt`. -/
def Renderer.standard (rt : Path) : Renderer := fun name d => do
  let items ← d.unitItems? rt name
  let text ← Doc.render? (unitDocs items)
  return unitHeader ++ text

end PatternFactory
