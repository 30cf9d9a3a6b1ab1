import PatternFactory.Token.Basic

/-!
# Syntax trees

Types, paths, generic parameters, signatures and the items that the generator looks into have trees
of their own.  Code (expressions, patterns, statements, blocks, and the items in them) is only
carried along and printed, so it is one labelled tree, `Code`, whose leaves are marks, names,
literals, types and paths.

Trees keep what their spelling shows: trailing separators, redundant parentheses, the turbofish.
Places in the source text are kept only where a message quotes them.
-/

namespace PatternFactory

/-! ### Names -/

/-- A path of plain words, as in attributes, macro calls and visibilities. -/
structure SimplePath where
  leading : Bool
  words : List String
  deriving DecidableEq, Repr, Inhabited

namespace SimplePath

/-- Is the path this one word? -/
def isWord (p : SimplePath) (w : String) : Bool := !p.leading && p.words == [w]

end SimplePath

/-- The calling convention of a function, its name being a string literal. -/
structure Abi where
  name : Option String
  deriving Inhabited

/-- Who may use an item. -/
inductive Visibility where
  | inherited
  | «public»
  | restricted (hasIn : Bool) (path : SimplePath)
  deriving DecidableEq

/-! ### Types, paths and code -/

/-- The forms of code: expressions, the parts of expressions that have a form of their own,
statements, patterns, and items with their parts. -/
inductive CodeKind where
  | array | assign | async | attributed | await | binary | block | break_ | call | cast | closure
  | const_ | continue_ | field | forLoop | if_ | index | infer | let_ | literal | loop | macroCall
  | match_ | methodCall | paren | path | range | rawAddress | reference | repeat_ | return_
  | struct_ | try_ | tryBlock | tuple | unary | unsafe_ | verbatim | while_ | yield_
  | arm | fieldValue
  | emptyStmt | exprStmt | itemStmt | localStmt | macroStmt | semiStmt
  | patConst | patField | patIdent | patLiteral | patMacro | patOr | patParen | patPath | patRange
  | patReference | patRest | patSlice | patStruct | patTuple | patTupleStruct | patType
  | patVerbatim | patWild
  | constItem | enumItem | externCrateItem | fnItem | foreignItem | implItem | macroItem
  | moduleItem | staticItem | structItem | traitItem | traitAliasItem | typeItem | unionItem
  | useItem | verbatimItem
  | assocTypeItem | foreignTypeItem
  | fnParam | receiver | structField | useGroup | useTree | variadic | variant
  deriving DecidableEq, Repr, Inhabited

mutual

/-- Types. -/
inductive Ty where
  | array (elem : Ty) (len : Code)
  | bareFn (binder : Option Binder) (isUnsafe : Bool) (abi : Option Abi) (inputs : List BareArg)
      (trailing : Bool) (variadic : Option BareVariadic) (output : Option Ty)
  | implTrait (bounds : List Bound) (trailing : Bool)
  | infer
  | macroCall (path : SimplePath) (delim : Delimiter) (body : List Token)
  | never
  | paren (elem : Ty)
  | path (path : Path)
  | qualified (self : Ty) (asTrait : Option Path) (rest : List Segment)
  | ptr (isMut : Bool) (elem : Ty)
  | reference (lifetime : Option String) (isMut : Bool) (elem : Ty)
  | slice (elem : Ty)
  | traitObject (hasDyn : Bool) (bounds : List Bound) (trailing : Bool)
  | tuple (elems : List Ty) (trailing : Bool)
  | verbatim (tokens : List Token)

/-- A parameter of a function type. -/
inductive BareArg where
  | mk (attrs : List Attr) (name : Option String) (ty : Ty)

/-- Paths, with generic arguments. -/
inductive Path where
  | mk (leading : Bool) (segments : List Segment)

/-- One name of a path with its arguments. -/
inductive Segment where
  | mk (name : String) (args : Args)

/-- The arguments of a path segment. -/
inductive Args where
  | none
  | angle (turbofish : Bool) (args : List GenericArg) (trailing : Bool)
  | paren (inputs : List Ty) (trailing : Bool) (output : Option Ty)

/-- One generic argument. -/
inductive GenericArg where
  | lifetime (name : String)
  | type (ty : Ty)
  | const (value : Code)
  | assocType (name : String) (args : Args) (ty : Ty)
  | assocConst (name : String) (args : Args) (value : Code)
  | constraint (name : String) (args : Args) (bounds : List Bound) (trailing : Bool)

/-- A bound of a type: a trait, a lifetime, or the parameters that an opaque type captures. -/
inductive Bound where
  | trait (parens : Bool) (isMaybe : Bool) (binder : Option Binder) (path : Path)
  | lifetime (name : String)
  | captures (params : List String) (trailing : Bool)
  | verbatim (tokens : List Token)

/-- What `for<…>` introduces. -/
inductive Binder where
  | mk (params : List GenericParam) (trailing : Bool)

/-- A generic parameter. -/
inductive GenericParam where
  | lifetime (param : LifetimeParam)
  | type (attrs : List Attr) (name : String) (bounds : List Bound) (trailing : Bool)
      (default : Option Ty)
  | const (attrs : List Attr) (name : String) (ty : Ty) (default : Option Code)

/-- A lifetime parameter with the lifetimes that it outlives. -/
structure LifetimeParam where
  attrs : List Attr
  name : String
  bounds : List String
  trailing : Bool

/-- A condition of a where clause. -/
inductive WherePredicate where
  | lifetime (name : String) (bounds : List String) (trailing : Bool)
  | type (binder : Option Binder) (ty : Ty) (bounds : List Bound) (trailing : Bool)

/-- The open end of the parameters of a function type. -/
structure BareVariadic where
  attrs : List Attr
  name : Option String
  comma : Bool

/-- The content of an attribute. -/
inductive Meta where
  | path (path : SimplePath)
  | list (path : SimplePath) (delim : Delimiter) (closing : Pos) (body : List Token)
  | nameValue (path : SimplePath) (value : Code)

/-- An attribute, written in front of what it belongs to or, if `inner`, inside of it. -/
structure Attr where
  inner : Bool
  «meta» : Meta
  pos : Pos

/-- Expressions, patterns, statements, blocks and items. -/
inductive Code where
  | tree (kind : CodeKind) (parts : List Part)

/-- A part of a piece of code.  A `mark` is a keyword or an operator. -/
inductive Part where
  | mark (text : String)
  | word (text : String)
  | lifetime (name : String)
  | literal (text : String)
  | group (delim : Delimiter) (parts : List Part)
  | code (code : Code)
  | ty (ty : Ty)
  | path (path : Path)
  | args (args : Args)
  | attr (attr : Attr)
  | binder (binder : Binder)
  | simple (path : SimplePath)
  | raw (tokens : List Token)
  | vis (vis : Visibility)
  | abi (abi : Abi)
  | generics (params : List GenericParam) (trailing : Bool)
  | bounds (bounds : List Bound) (trailing : Bool)
  | conditions (predicates : List WherePredicate) (trailing : Bool)

end

instance : Inhabited Ty := ⟨.infer⟩
instance : Inhabited Code := ⟨.tree .infer []⟩
instance : Inhabited Path := ⟨.mk false []⟩
instance : Inhabited Args := ⟨.none⟩

namespace Meta

/-- The path that names the attribute. -/
def name : Meta → SimplePath
  | path p => p
  | list p _ _ _ => p
  | nameValue p _ => p

end Meta

namespace Segment

/-- The name of the segment. -/
def name : Segment → String
  | mk n _ => n

/-- The arguments of the segment. -/
def args : Segment → Args
  | mk _ a => a

end Segment

namespace Path

/-- The names of the path with their arguments. -/
def segments : Path → List Segment
  | mk _ s => s

/-- Does the path begin with `::`? -/
def leading : Path → Bool
  | mk l _ => l

end Path

namespace Code

/-- The form of the code. -/
def kind : Code → CodeKind
  | tree k _ => k

/-- The parts of the code. -/
def parts : Code → List Part
  | tree _ ps => ps

end Code

/-! ### Generics and signatures -/

namespace GenericParam

/-- Is it a lifetime? -/
def isLifetime : GenericParam → Bool
  | lifetime _ => true
  | _ => false

/-- The name of the parameter; a lifetime's without its tick. -/
def name : GenericParam → String
  | lifetime p => p.name
  | type _ n _ _ _ => n
  | const _ n _ _ => n

end GenericParam

/-- Generic parameters with the conditions on them. -/
structure Generics where
  params : List GenericParam
  /-- Does a comma follow the last parameter? -/
  paramsTrailing : Bool
  predicates : List WherePredicate
  /-- Does a comma follow the last condition? -/
  predicatesTrailing : Bool

namespace Generics

/-- No parameters and no conditions. -/
def none : Generics := ⟨[], false, [], false⟩

/-- Parameters and conditions without a comma behind the last one. -/
def ofLists (params : List GenericParam) (predicates : List WherePredicate) : Generics :=
  ⟨params, false, predicates, false⟩

end Generics

instance : Inhabited Generics := ⟨Generics.none⟩

/-- A parameter of a function: the receiver, or a pattern with its type. -/
inductive FnParam where
  | receiver (code : Code)
  | typed (attrs : List Attr) (pat : Code) (ty : Ty)

/-- The signature of a function. -/
structure Signature where
  isConst : Bool
  isAsync : Bool
  isUnsafe : Bool
  abi : Option Abi
  name : String
  /-- The line of the name. -/
  line : Nat
  generics : Generics
  params : List FnParam
  /-- Does a comma follow the last parameter? -/
  trailing : Bool
  /-- The dots that leave the parameters open. -/
  variadic : Option Code
  output : Option Ty

/-! ### Items -/

/-- A function with the statements of its body. -/
structure FnItem where
  attrs : List Attr
  vis : Visibility
  isDefault : Bool
  sig : Signature
  statements : List Part

/-- A member of an impl block; only functions are looked at. -/
inductive ImplMember where
  | fn (item : FnItem)
  | other (code : Code)

/-- An impl block. -/
structure ImplItem where
  attrs : List Attr
  isDefault : Bool
  isUnsafe : Bool
  /-- The line of the word `impl`. -/
  line : Nat
  generics : Generics
  isNegative : Bool
  /-- The trait that the block implements, if any. -/
  ofTrait : Option Path
  selfTy : Ty
  members : List ImplMember

/-- What stands in front of the content of a module. -/
structure ModuleHead where
  attrs : List Attr
  vis : Visibility
  isUnsafe : Bool
  /-- The line of the word `mod`. -/
  line : Nat
  name : String

/-- The other items that may carry attributes which the generator looks at. -/
inductive DataKind where
  | struct_
  | enum_
  | trait_
  deriving DecidableEq

/-- Items.  Impl blocks, modules and functions have trees of their own, the other items are only
code. -/
inductive Item where
  | impl (item : ImplItem)
  | module (head : ModuleHead) (content : List Item)
  | moduleFile (head : ModuleHead)
  | fn (item : FnItem)
  | data (kind : DataKind) (attrs : List Attr) (code : Code)
  | other (code : Code)

end PatternFactory
