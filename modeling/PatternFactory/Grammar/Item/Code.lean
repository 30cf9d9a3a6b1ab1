import PatternFactory.Grammar.Basic

/-!
# Items as code

Inside of a block an item is code like everything else.  `Item.code` gives this code, the parts in
the order in which they are written: attributes in front, those inside of the braces first in there.
Empty lists of generic parameters and of conditions are not written.
-/

namespace PatternFactory

open Grammar

/-! ### Parts -/

/-- Those of the attributes that stand inside of an item, or those in front of it. -/
def attrParts (inner : Bool) (attrs : List Attr) : List Part :=
  (attrs.filter fun a => a.inner == inner).map Part.attr

/-- The visibility of an item, unless it has none of its own. -/
def visParts (vis : Visibility) : List Part := if vis = .inherited then [] else [.vis vis]

/-- Generic parameters, which may be missing. -/
def genericParts : Option (List GenericParam × Bool) → List Part
  | some (params, trailing) => if params.isEmpty then [] else [.generics params trailing]
  | none => []

/-- Conditions, which may be missing. -/
def conditionParts : Option (List WherePredicate × Bool) → List Part
  | some (predicates, trailing) =>
    if predicates.isEmpty then [] else [.conditions predicates trailing]
  | none => []

namespace Generics

/-- The parameters as parts of code. -/
def paramParts (g : Generics) : List Part := genericParts (some (g.params, g.paramsTrailing))

/-- The conditions as parts of code. -/
def predicateParts (g : Generics) : List Part :=
  conditionParts (some (g.predicates, g.predicatesTrailing))

end Generics

/-! ### Functions -/

namespace FnParam

/-- A parameter as code. -/
def code : FnParam → Code
  | receiver code => code
  | typed attrs pat ty =>
    .tree .fnParam (attrs.map Part.attr ++ [.code pat, .mark ":", .ty ty])

end FnParam

namespace Signature

/-- What stands between the parentheses. -/
def paramParts (s : Signature) : List Part :=
  withCommas (s.params.map fun p => [.code p.code]) s.trailing
    ++ match s.variadic with
      | some dots => markIf (!s.params.isEmpty && !s.trailing) "," ++ [.code dots]
      | none => []

/-- The parts of a signature. -/
def parts (s : Signature) : List Part :=
  markIf s.isConst "const" ++ markIf s.isAsync "async" ++ markIf s.isUnsafe "unsafe"
    ++ (s.abi.map Part.abi).toList ++ [.mark "fn", .word s.name] ++ s.generics.paramParts
    ++ .group .paren s.paramParts
    :: (s.output.map fun ty => [Part.mark "->", .ty ty]).getD [] ++ s.generics.predicateParts

end Signature

namespace FnItem

/-- A function as code. -/
def code (f : FnItem) : Code :=
  .tree .fnItem (attrParts false f.attrs ++ visParts f.vis ++ markIf f.isDefault "default"
    ++ f.sig.parts ++ [.group .brace (attrParts true f.attrs ++ f.statements)])

end FnItem

/-! ### Blocks of items -/

namespace ImplMember

/-- A member of an impl block as code. -/
def code : ImplMember → Code
  | fn item => item.code
  | other code => code

end ImplMember

namespace ImplItem

/-- An impl block as code. -/
def code (i : ImplItem) : Code :=
  .tree .implItem (attrParts false i.attrs ++ markIf i.isDefault "default"
    ++ markIf i.isUnsafe "unsafe" ++ .mark "impl" :: i.generics.paramParts
    ++ (match i.ofTrait with
      | some path =>
        markIf i.isNegative "!" ++ [.bounds [.trait false false none path] false, .mark "for"]
      | none => [])
    ++ .ty i.selfTy :: i.generics.predicateParts
    ++ [.group .brace (attrParts true i.attrs ++ i.members.map fun m => .code m.code)])

end ImplItem

namespace ModuleHead

/-- A module as code, `behind` being what stands behind its name. -/
def code (h : ModuleHead) (behind : Part) : Code :=
  .tree .moduleItem (attrParts false h.attrs ++ visParts h.vis ++ markIf h.isUnsafe "unsafe"
    ++ [.mark "mod", .word h.name, behind])

end ModuleHead

mutual

/-- An item as code. -/
def Item.code : Item → Code
  | .impl item => item.code
  | .module head content =>
    head.code (.group .brace (attrParts true head.attrs ++ Item.listParts content))
  | .moduleFile head => head.code (.mark ";")
  | .fn item => item.code
  | .data _ _ code => code
  | .other code => code

/-- Items as parts of code. -/
def Item.listParts : List Item → List Part
  | [] => []
  | i :: rest => .code i.code :: Item.listParts rest

end

end PatternFactory
