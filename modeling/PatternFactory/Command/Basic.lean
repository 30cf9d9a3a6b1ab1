import PatternFactory.Config.Search
import PatternFactory.Generation.Files
import PatternFactory.Generation.Store
import PatternFactory.SourceTree

/-!
# Commands

`generate` writes the units for a source tree into files, and `check` only finds out what it would
do.  Nothing is written before the configuration is settled and all sources are read.
-/

namespace PatternFactory

/-- What a command is told beside its paths. -/
structure Options where
  /-- The configuration file; if none is named, one is looked for. -/
  configFile : Option PathName
  suffix : Option String
  runtimePath : Option String
  /-- Globs of further files that are left out. -/
  exclude : List String
  deriving DecidableEq, Repr

namespace Options

/-- Nothing is told. -/
def none : Options := ⟨.none, .none, .none, []⟩

/-- The configuration with what the options set in it. -/
def override (o : Options) (c : Config) : Config :=
  { c with
    suffix := o.suffix.getD c.suffix
    runtimePath := o.runtimePath.getD c.runtimePath
    exclude := c.exclude ++ o.exclude }

end Options

/-! ### Failures -/

/-- What a command was about to do. -/
inductive Purpose where
  | loadConfig (path : PathName)
  | checkConfig
  | scan (root : PathName)
  deriving DecidableEq, Repr

namespace Purpose

/-- The wording of its failure. -/
def message : Purpose → String
  | loadConfig path => "Failed to load config from " ++ path.text
  | checkConfig => "Invalid configuration"
  | scan root => "Failed to scan " ++ root.text

end Purpose

/-- A failure, and what failed by it if that is told. -/
structure CommandFailure where
  purpose : Option Purpose
  failure : Failure
  deriving DecidableEq, Repr

namespace CommandFailure

/-- The wordings, each of which is the cause of the one before. -/
def chain (f : CommandFailure) : List String :=
  (f.purpose.map Purpose.message).toList ++ [f.failure.message]
    ++ (f.failure.cause?.map FileError.message).toList

end CommandFailure

/-- The result of a command. -/
abbrev CommandResult (α : Type) := Except CommandFailure α

/-- Tells what failed. -/
def during {α : Type} (purpose : Option Purpose) (r : Except Failure α) : CommandResult α :=
  r.mapError fun failure => ⟨purpose, failure⟩

/-! ### Outcomes -/

/-- What a command brought about. -/
structure Outcome where
  /-- The names of the units in the order of their emission. -/
  emitted : List QualifiedName
  /-- The number of warnings. -/
  warnings : Nat
  /-- The number of errors. -/
  errors : Nat
  deriving DecidableEq, Repr

namespace Outcome

/-- Did no error turn up? -/
def isSuccess (o : Outcome) : Bool := o.errors = 0

/-- The outcome of a run. -/
def ofReported (r : Reported (List RoundReport)) : Except Failure Outcome :=
  r.result.map fun reports =>
    ⟨emittedNames reports, Diagnostic.warningCount r.diagnostics,
      Diagnostic.errorCount r.diagnostics⟩

end Outcome

/-! ### Running -/

section

variable {m : Type → Type} [Monad m] [FileSystem m]

/-- The configuration in the file that the options name, or in the one that is found. -/
def Options.givenConfig (src : PathName) (o : Options) : m (CommandResult Config) :=
  match o.configFile with
  | some path => return during (some (.loadConfig path)) (← Config.load path)
  | .none => return during .none (← Config.search src)

/-- The configuration with which a command runs. -/
def Options.resolve (src : PathName) (o : Options) : m (CommandResult Config) := do
  return (← o.givenConfig src).bind fun c =>
    during (some .checkConfig) (o.override c).checked

/-- The sources below a root. -/
def scanSources (src : PathName) (c : Config) : m (CommandResult (List SourceFile)) := do
  match during (some (.scan src)) (← findSources src c.exclude) with
  | .error e => return .error e
  | .ok paths => return during none (← loadSources src paths)

/-- What a run needs: the plan for it and the sources. -/
def prepare (src : PathName) (o : Options) : m (CommandResult (RunPlan × List SourceFile)) := do
  match ← o.resolve src with
  | .error e => return .error e
  | .ok c =>
    return (← scanSources src c).bind fun sources =>
      during none ((RunPlan.ofConfig c).map fun plan => (plan, sources))

/-- Runs over a source tree with an emitter that works on a state, and gives the last state. -/
def runOver {σ : Type} (emit : Emitter (StateT σ m)) (start : σ) (src : PathName) (o : Options) :
    m (CommandResult Outcome × σ) := do
  match ← prepare src o with
  | .error e => return (.error e, start)
  | .ok (plan, sources) =>
    let (r, state) ← (plan.run emit sources).run start
    return (during none (Outcome.ofReported r), state)

/-- Writes the units for a source tree into files below `out`. -/
def generate (src out : PathName) (o : Options) : m (CommandResult Outcome) :=
  Prod.fst <$> runOver (fileEmitter out) [] src o

/-- Finds out what `generate` would do, and the units that it would write. -/
def preview (src : PathName) (o : Options) : m (CommandResult Outcome × UnitStore) :=
  runOver UnitStore.emitter .empty src o

/-- Finds out what `generate` would do. -/
def check (src : PathName) (o : Options) : m (CommandResult Outcome) :=
  Prod.fst <$> preview src o

end

end PatternFactory
