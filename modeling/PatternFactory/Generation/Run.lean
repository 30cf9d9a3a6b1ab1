import PatternFactory.Generation.Round

/-!
# Runs

Units are source texts and may hold declarations themselves.  So the units of a round are the
sources of the next one, until no declaration turns up that has not been seen before.  A run that
would need more rounds than it is allowed fails.
-/

namespace PatternFactory

/-- The directory under which units are listed when they are read as sources. -/
def generatedRoot : PathName := ⟨"<generated>"⟩

/-- The name of the file of a unit. -/
def QualifiedName.fileName (q : QualifiedName) : String := q.name ++ ".rs"

/-- The path name of the file of a unit under a root. -/
def unitPath (root : PathName) (q : QualifiedName) : PathName :=
  root.joinAll (q.namespace.segments ++ [q.fileName])

/-- Reads a source text. -/
def readSource (path : PathName) (ns : Namespace) (text : String) : Except Failure SourceFile :=
  (SourceFile.parse path ns text).mapError (Failure.badSource path)

namespace GeneratedUnit

/-- The unit as a source. -/
def source (u : GeneratedUnit) : Except Failure SourceFile :=
  readSource (unitPath generatedRoot u.name) u.name.namespace u.text

end GeneratedUnit

/-- The declarations whose identity is neither among `seen` nor that of one before. -/
def unseen (seen : List String) : List MarkedDeclaration → List MarkedDeclaration
  | [] => []
  | d :: rest =>
    if seen.contains d.identity then unseen seen rest else d :: unseen (d.identity :: seen) rest

/-- A round that was begun. -/
structure Round where
  /-- The declarations that it was given. -/
  found : List MarkedDeclaration
  /-- The units that it emitted, or why it failed. -/
  result : Except Failure (List GeneratedUnit)

namespace Round

/-- The units, if it did not fail. -/
def units (r : Round) : List GeneratedUnit :=
  match r.result with
  | .ok units => units
  | .error _ => []

/-- The identities of its declarations. -/
def identities (r : Round) : List String := r.found.map MarkedDeclaration.identity

/-- The sources of the next round, unless this one failed or a unit cannot be read. -/
def next (r : Round) : Except Failure (List SourceFile) :=
  r.result.bind (List.mapM GeneratedUnit.source)

end Round

/-- What happened in a run: the rounds that were begun, the diagnostics, and whether it failed. -/
structure Course where
  rounds : List Round
  diagnostics : List Diagnostic
  result : Except Failure Unit

namespace Course

/-- The course with a round and its diagnostics in front. -/
def behind (r : Round) (ds : List Diagnostic) (c : Course) : Course :=
  ⟨r :: c.rounds, ds ++ c.diagnostics, c.result⟩

/-- The reports on the rounds, which are numbered from 1. -/
def reports (c : Course) : List RoundReport :=
  c.rounds.mapIdx fun i r => roundReport (i + 1) r.found r.units

/-- The reports, or the failure in their place. -/
def reported (c : Course) : Reported (List RoundReport) :=
  ⟨c.diagnostics, c.result.map fun _ => c.reports⟩

end Course

/-- How a run goes. -/
structure RunPlan where
  generator : Generator
  /-- The largest number of rounds; there is one in any case. -/
  roundLimit : Nat
  /-- The marker that is named when there are too many rounds. -/
  marker : String

namespace RunPlan

variable {m : Type → Type} [Monad m]

/-- The number of rounds that are allowed. -/
def rounds (p : RunPlan) : Nat := max 1 p.roundLimit

/-- The declarations of some sources. -/
def discover (p : RunPlan) (sources : List SourceFile) : List MarkedDeclaration :=
  sources.flatMap (SourceFile.discover p.generator.markers)

/-- The diagnostics about the markers of some sources. -/
def markerDiagnostics (p : RunPlan) (sources : List SourceFile) : List Diagnostic :=
  sources.flatMap (SourceFile.markerDiagnostics p.generator.markers)

/-- Runs rounds over `sources`, and over the units that come of them, as long as there are unseen
declarations.  `left` more rounds are allowed. -/
def courseFrom (p : RunPlan) (emit : Emitter m) (left : Nat) (seen : List String)
    (sources : List SourceFile) : m Course := do
  let diagnostics := p.markerDiagnostics sources
  let fresh := unseen seen (p.discover sources)
  if fresh.isEmpty then return ⟨[], diagnostics, .ok ()⟩
  match left with
  | 0 => return ⟨[], diagnostics, .error (.roundLimit p.rounds p.marker)⟩
  | left + 1 =>
    let ⟨own, result⟩ ← p.generator.runRound emit fresh
    let round : Round := ⟨fresh, result⟩
    let diagnostics := diagnostics ++ own
    match round.next with
    | .error failure => return ⟨[round], diagnostics, .error failure⟩
    | .ok sources =>
      Course.behind round diagnostics <$> p.courseFrom emit left (seen ++ round.identities) sources

/-- Runs all rounds over `sources`. -/
def course (p : RunPlan) (emit : Emitter m) (sources : List SourceFile) : m Course :=
  p.courseFrom emit p.rounds [] sources

/-- Runs all rounds over `sources` and gives the reports on them. -/
def run (p : RunPlan) (emit : Emitter m) (sources : List SourceFile) :
    m (Reported (List RoundReport)) :=
  Course.reported <$> p.course emit sources

/-- The plan that a configuration describes. -/
def ofConfig (c : Config) : Except Failure RunPlan :=
  match readRuntimePath c.runtimePath with
  | .ok rt => .ok ⟨.ofConfig c (.standard rt), c.roundLimit, c.declarationMarker⟩
  | .error e => .error (.badRuntimePath c.runtimePath e.fault)

end RunPlan

/-- The names that are emitted in some rounds. -/
def emittedNames (reports : List RoundReport) : List QualifiedName :=
  reports.flatMap RoundReport.emitted

end PatternFactory
