import PatternFactory.Grammar.Item.Code
import PatternFactory.Layout.Tree

/-!
# Layout of units

A unit is laid out item by item.
-/

namespace PatternFactory

/-- The layout of the items of a unit. -/
def unitDocs (items : List Item) : List Doc :=
  Doc.rigid 0 (items.flatMap fun i => i.code.layout.whole)

end PatternFactory
