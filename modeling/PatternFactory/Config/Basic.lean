import PatternFactory.Declaration.Marker
import PatternFactory.Declaration.Validation
import PatternFactory.Glob

/-!
# Configuration

The configuration names the markers, the suffix of generated names and the path of the runtime, and
sets the limits.  `Config.validate` reports the first thing that cannot be used.
-/

namespace PatternFactory

/-- What a run of the generator is told. -/
structure Config where
  /-- What is put behind the name of a declaration to name its unit. -/
  suffix : String
  /-- The marker of declarations. -/
  declarationMarker : String
  /-- The marker of extractors. -/
  extractorMarker : String
  /-- The largest number of components that an extractor may return. -/
  arityLimit : Nat
  /-- The largest number of rounds. -/
  roundLimit : Nat
  /-- The path under which generated code finds the pattern types. -/
  runtimePath : String
  /-- Globs of source files that are left out. -/
  exclude : List String
  deriving DecidableEq, Repr

namespace Config

/-- The configuration when nothing is said. -/
def standard : Config where
  suffix := "Patterns"
  declarationMarker := "patterns"
  extractorMarker := "unapply"
  arityLimit := maxArity
  roundLimit := 16
  runtimePath := "::patgen::runtime"
  exclude := []

/-- The markers. -/
def markers (c : Config) : Markers := ⟨c.declarationMarker, c.extractorMarker⟩

end Config

/-- The path of the runtime in a configuration. -/
def readRuntimePath (text : String) : Except SyntaxError Path :=
  readText text fun g => g.path .type

/-- Why a configuration cannot be used. -/
inductive ConfigFault where
  | emptySuffix
  | badSuffix (suffix : String)
  | badDeclarationMarker (marker : String)
  | badExtractorMarker (marker : String)
  | equalMarkers
  | arityTooLarge (limit : Nat)
  | noRounds
  | badRuntimePath (path : String)
  /-- A glob that cannot be read. -/
  | badGlob (fault : GlobFault)
  deriving DecidableEq, Repr

namespace ConfigFault

/-- The wording about a marker. -/
def aboutMarker (field marker : String) : String :=
  field ++ " '" ++ marker ++ "' is not a valid attribute name"

/-- The wording. -/
def message : ConfigFault → String
  | emptySuffix => "suffix must not be empty"
  | badSuffix s => "suffix '" ++ s ++ "' is not a valid identifier"
  | badDeclarationMarker m => aboutMarker "patterns_marker" m
  | badExtractorMarker m => aboutMarker "unapply_marker" m
  | equalMarkers => "patterns_marker and unapply_marker must differ"
  | arityTooLarge n =>
    "max_arity " ++ toString n ++ " exceeds the runtime limit of " ++ toString maxArity
  | noRounds => "max_rounds must be at least 1"
  | badRuntimePath p => "runtime_path '" ++ p ++ "' is not a valid path"
  | badGlob fault => fault.message

end ConfigFault

namespace Config

/-- Reads some globs; the first that cannot be read is reported. -/
def readGlobs (texts : List String) : Except GlobFault (List Glob) := texts.mapM Glob.parse

/-- Fails if the condition holds. -/
def refuseIf (condition : Bool) (fault : ConfigFault) : Except ConfigFault Unit :=
  if condition then .error fault else .ok ()

/-- Checks that the configuration can be used. -/
def validate (c : Config) : Except ConfigFault Unit := do
  refuseIf c.suffix.isEmpty .emptySuffix
  refuseIf (!isIdentifier c.suffix) (.badSuffix c.suffix)
  refuseIf (!isIdentifier c.declarationMarker) (.badDeclarationMarker c.declarationMarker)
  refuseIf (!isIdentifier c.extractorMarker) (.badExtractorMarker c.extractorMarker)
  refuseIf (c.declarationMarker = c.extractorMarker) .equalMarkers
  refuseIf (maxArity < c.arityLimit) (.arityTooLarge c.arityLimit)
  refuseIf (c.roundLimit = 0) .noRounds
  refuseIf (!(readRuntimePath c.runtimePath).isOk) (.badRuntimePath c.runtimePath)
  match readGlobs c.exclude with
  | .ok _ => .ok ()
  | .error fault => .error (.badGlob fault)

end Config

end PatternFactory
