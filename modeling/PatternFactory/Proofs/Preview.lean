import PatternFactory.Proofs.OneRound
import PatternFactory.Proofs.Reading
import PatternFactory.Proofs.Storing

/-!
# What is found out beforehand comes true

`check` runs as `generate` does, but puts the units into a store.  So if `generate` succeeds, then
`check` has the same outcome on the tree of before, the files of the units hold what the store
holds, and nothing else has changed but for new directories and the places of temporary files
(`check_predicts_generate`).  `check` never changes anything.

A run that fills files and ends well takes the course of a run that fills a store: the names that it
emits differ, so the store takes all units (`FileTree.Generates.run_preview`).
-/

namespace PatternFactory

/-! ### Outcomes -/

namespace Course

/-- The outcome of a run that takes this course and ends well. -/
def outcome (c : Course) : Outcome :=
  ⟨emittedNames c.reports, Diagnostic.warningCount c.diagnostics,
    Diagnostic.errorCount c.diagnostics⟩

theorem ofReported_reported (c : Course) :
    Outcome.ofReported c.reported = c.result.map fun _ => c.outcome := by
  rw [Outcome.ofReported, reported]
  cases c.result <;> rfl

/-- The units of a course, in the order in which they are emitted. -/
def units (c : Course) : List GeneratedUnit := c.rounds.flatMap Round.units

theorem emittedNames_mapIdx (rounds : List Round) (n : ℕ) :
    emittedNames (rounds.mapIdx fun i r => roundReport (i + n) r.found r.units) =
      (rounds.flatMap Round.units).map GeneratedUnit.name := by
  induction rounds generalizing n with
  | nil => rfl
  | cons r rounds ih =>
    have hrest := ih (n + 1)
    simp only [emittedNames, roundReport] at hrest ⊢
    rw [List.mapIdx_cons, List.flatMap_cons, List.flatMap_cons, List.map_append, ← hrest]
    simp only [Nat.add_assoc, Nat.add_comm 1]

theorem emitted_outcome (c : Course) : c.outcome.emitted = c.units.map GeneratedUnit.name :=
  emittedNames_mapIdx c.rounds 1

end Course

/-! ### Running with a prepared plan -/

section

variable {t : FileTree} {src out : PathName} {o : Options} {plan : RunPlan}
  {sources : List SourceFile}

theorem run_prepare_disk (d : Disk) (src : PathName) (o : Options) :
    (prepare src o : StateM Disk _).run d = (d.tree.reading.prepared src o, d) :=
  Disk.shows.run_prepare src o d

/-- A run in a world comes to what its preparation and its course come to. -/
theorem run_runOver_of_prepared {σ : Type} {emit : Emitter (StateT σ (StateM Disk))} {start : σ}
    {d : Disk} (h : d.tree.reading.prepared src o = .ok (plan, sources)) :
    (runOver emit start src o).run d =
      let ((c, s'), d') := ((plan.course emit sources).run start).run d
      ((during none (Outcome.ofReported c.reported), s'), d') := by
  have hprepare := run_prepare_disk d src o
  rw [h] at hprepare
  rw [runOver, run_bind_of_eq hprepare]
  rfl

theorem run_runOver_of_error {σ : Type} {emit : Emitter (StateT σ (StateM Disk))} {start : σ}
    {d : Disk} {e : CommandFailure} (h : d.tree.reading.prepared src o = .error e) :
    (runOver emit start src o).run d = ((.error e, start), d) := by
  have hprepare := run_prepare_disk d src o
  rw [h] at hprepare
  rw [runOver, run_bind_of_eq hprepare]
  rfl

theorem run_generate_of_prepared {d : Disk}
    (h : d.tree.reading.prepared src o = .ok (plan, sources)) :
    (generate src out o : StateM Disk _).run d =
      let ((c, _), d') := ((plan.course (Disk.emitter out) sources).run []).run d
      (during none (Outcome.ofReported c.reported), d') := by
  rw [generate, StateT.run_map, run_runOver_of_prepared h]
  rfl

/-- A command that generates files is done after one round if there are no declarations in the
units. -/
theorem run_generate_of_single {d after : Disk} {c : Collection} {next : List SourceFile}
    {done : List QualifiedName} (h : d.tree.reading.prepared src o = .ok (plan, sources))
    (hfresh : plan.fresh [] sources ≠ [])
    (hcollect : plan.generator.collect (plan.fresh [] sources) = .ok c)
    (hemits : Emits (Disk.emitter out).packed c.units ([], d) c.units (.ok ()) (done, after))
    (hnext : c.units.mapM GeneratedUnit.source = .ok next) (hnone : plan.discover next = []) :
    let ds := plan.markerDiagnostics sources ++ c.diagnostics ++ plan.markerDiagnostics next
    (generate src out o : StateM Disk _).run d =
      (.ok ⟨c.units.map GeneratedUnit.name, Diagnostic.warningCount ds, Diagnostic.errorCount ds⟩,
        after) := by
  intro ds
  let r : Round := ⟨plan.fresh [] sources, .ok c.units⟩
  have hmakes : r.Makes plan.generator (Disk.emitter out).packed ([], d) c.units c.diagnostics
      (done, after) := .handed hcollect hemits rfl
  have hruns := RunPlan.Runs.single rfl hfresh hmakes.run_eq hnext hnone
  rw [run_generate_of_prepared h, RunPlan.course, RunPlan.run_courseFrom_packed.1 hruns]
  have hnames : emittedNames (Course.reports ⟨[r], ds, .ok ()⟩) = c.units.map GeneratedUnit.name :=
    (Course.emittedNames_mapIdx [r] 1).trans (by simp [r, Round.units])
  dsimp only
  rw [Course.ofReported_reported, ← hnames]
  rfl

/-- What is prepared makes runs of regular units. -/
theorem Reading.Prepares.regular {v : Reading} (h : v.Prepares src o plan sources) :
    plan.generator.renderer.Worded ∧ ∀ f ∈ sources, f.Regular := by
  obtain ⟨-, -, -, -, -, -, hsources, hplan⟩ := h
  refine ⟨RunPlan.worded_of_ofConfig hplan, fun f hf => ?_⟩
  obtain ⟨x, -, hx⟩ := (mem_of_mapM_eq_ok hsources).1 hf
  exact regular_of_sourceOf hx

/-- A command that generates files runs with this plan over these sources, the run takes this course
and ends well, and the second tree holds the units. -/
structure FileTree.Generates (t : FileTree) (src out : PathName) (o : Options) (plan : RunPlan)
    (sources : List SourceFile) (c : Course) (t' : FileTree) : Prop where
  prepares : t.reading.Prepares src o plan sources
  result : c.result = .ok ()
  nodup : (c.units.map GeneratedUnit.name).Nodup
  regular : ∀ u ∈ c.units, u.name.Regular
  stored : ∃ passed place, (c.units ≠ [] → Way [] out.parts passed place) ∧
    t.Stored t' out passed place c.units
  /-- The run takes this course with any emitter that takes the units. -/
  runs : ∀ {τ : Type} {emit : Emitter (StateM τ)} {s s' : τ},
    Emits emit c.units s c.units (.ok ()) s' → plan.Runs emit plan.rounds [] sources s c s'

/-- **What stands behind a command that succeeds.** -/
theorem exists_generates {outcome : Outcome} {after : Disk}
    (h : (generate src out o : StateM Disk _).run (.ofTree t) = (.ok outcome, after)) :
    ∃ plan sources c t', t.Generates src out o plan sources c t' ∧ outcome = c.outcome ∧
      after = .ofTree t' := by
  cases hprepared : t.reading.prepared src o with
  | error e =>
    have herror : (generate src out o : StateM Disk _).run (.ofTree t) = (.error e, .ofTree t) :=
      Disk.shows.run_generate_of_error out hprepared
    rw [herror] at h
    cases h
  | ok prepared =>
    obtain ⟨plan, sources⟩ := prepared
    obtain ⟨⟨⟨c, done⟩, d'⟩, hcourse⟩ :
      ∃ x, ((plan.course (Disk.emitter out) sources).run []).run (.ofTree t) = x := ⟨_, rfl⟩
    rw [run_generate_of_prepared (d := .ofTree t) hprepared, hcourse] at h
    obtain ⟨houtcome, rfl⟩ := Prod.mk.inj h
    rw [during_eq_ok, Course.ofReported_reported] at houtcome
    obtain ⟨u, hresult, rfl⟩ := map_eq_ok_iff.1 houtcome
    have hprepares := Reading.prepared_eq_ok_iff.1 hprepared
    obtain ⟨hplan, hsources⟩ := hprepares.regular
    -- the names that were emitted and the disk are taken as one state, so that this is a run
    have hruns := RunPlan.run_courseFrom_packed.2 hcourse
    have hregular := hruns.regular hplan hsources hresult
    have hemits := (hruns.rounds_done (.inl hresult)).2
    obtain ⟨hnodup, -, t', passed, place, hd, hway, hstored⟩ :=
      exists_stored_of_emits hregular hemits
    obtain ⟨-, rfl⟩ := Prod.mk.inj hd
    exact ⟨plan, sources, c, t', ⟨hprepares, hresult, hnodup, hregular,
      ⟨passed, place, hway, hstored⟩, fun h' => hruns.of_emits hresult h'⟩, rfl, rfl⟩

/-! ### Finding out beforehand -/

theorem UnitStore.get?_of_mem {st : UnitStore} (hnodup : (st.arrived.map GeneratedUnit.name).Nodup)
    {u : GeneratedUnit} (hu : u ∈ st.arrived) : st.get? u.name = some u.text := by
  rw [get?, (find?_key_eq_some_iff hnodup).2 ⟨hu, rfl⟩]
  rfl

theorem run_preview_of_prepared {d : Disk}
    (h : d.tree.reading.prepared src o = .ok (plan, sources)) :
    (preview src o : StateM Disk _).run d =
      let (c, store) := (plan.course (m := StateM UnitStore) UnitStore.emitter sources).run .empty
      ((during none (Outcome.ofReported c.reported), store), d) := by
  rw [preview, run_runOver_of_prepared h, RunPlan.course_emitter_eq_aside]
  rfl

/-- **Finding out changes nothing.** -/
theorem run_preview_state (d : Disk) (src : PathName) (o : Options) :
    ((preview src o : StateM Disk _).run d).2 = d := by
  cases hprepared : d.tree.reading.prepared src o with
  | error e =>
    rw [preview, run_runOver_of_error hprepared]
  | ok prepared =>
    rw [run_preview_of_prepared hprepared]
    rfl

theorem run_check (d : Disk) (src : PathName) (o : Options) : (check src o : StateM Disk _).run d =
    (((preview src o : StateM Disk _).run d).1.1, d) := by
  have hstate := run_preview_state d src o
  rw [check, StateT.run_map]
  exact Prod.ext rfl hstate

/-- A run that fills files and ends well fills a store with its units. -/
theorem FileTree.Generates.run_preview {c : Course} {t' : FileTree}
    (h : t.Generates src out o plan sources c t') :
    (preview src o : StateM Disk _).run (.ofTree t) = ((.ok c.outcome, ⟨c.units⟩), .ofTree t) := by
  have hemits : Emits (UnitStore.emitter : Emitter (StateM UnitStore)) c.units .empty c.units
      (.ok ()) ⟨UnitStore.empty.arrived ++ c.units⟩ := UnitStore.emits_of_new h.nodup
  have hcourse := (h.runs hemits).courseFrom_eq
  have hprepared := Reading.prepared_eq_ok_iff.2 h.prepares
  rw [run_preview_of_prepared (d := .ofTree t) hprepared, RunPlan.course, hcourse]
  dsimp only
  rw [Course.ofReported_reported, h.result]
  rfl

end

/-- A tree of one source, and a directory for units that holds other files. -/
def sampleTree (files : List (Place × Entry)) : FileTree :=
  ⟨[(["src"], .directory), (["src", "lib.rs"], .file (.text
      "#[patterns]impl A\x7b#[unapply]pub fn f(v:&u8)->Option<()>\x7bNone\x7d\x7d")),
    (["out"], .directory)] ++ files⟩

/-- Options that make names short. -/
def sampleOptions : Options := ⟨none, some "P", some "r", []⟩

/-- The unit for the source. -/
def sampleUnit : GeneratedUnit where
  name := ⟨.root, "AP"⟩
  text := "// @generated by patgen. Do not edit.\n\n/// Pattern factories for `A`.\n" ++
    "pub struct AP;\nimpl AP \x7b\n    /// Pattern backed by `A::f`.\n" ++
    "    pub fn f() -> r::Pattern0<u8> \x7b\n" ++
    "        r::Pattern0::new(|value: &u8| <A>::f(value))\n    \x7d\n\x7d\n"

/-- The unit can be read, and there is nothing in it for a second round. -/
theorem sampleUnit_source : ∃ f, sampleUnit.source = .ok f ∧
    f.discover Config.standard.markers = [] ∧ f.markerDiagnostics Config.standard.markers = [] := by
  have hread : sampleUnit.source.toOption.any fun f =>
      (f.discover Config.standard.markers).isEmpty ∧
        (f.markerDiagnostics Config.standard.markers).isEmpty := by
    have htext : sampleUnit.text = .ofList _ :=
      append_eq_ofList (append_eq_ofList (append_eq_ofList rfl rfl) rfl) rfl
    rw [GeneratedUnit.source, readSource, SourceFile.parse, htext, File.ofText_ofList]
    decide +kernel
  obtain ⟨f, hf, hempty⟩ := exists_of_any_toOption hread
  obtain ⟨hfound, hreported⟩ := of_decide_eq_true hempty
  exact ⟨f, hf, List.isEmpty_iff.1 hfound, List.isEmpty_iff.1 hreported⟩

/-- What is prepared leads to that unit, though there are files in the directory for units. -/
theorem prepared_sample :
    let t := sampleTree [(["out", "AP.rs"], .file (.text "old")),
      (["out", "AP.rs.tmp"], .file (.text "older"))]
    ∃ plan sources c, t.reading.prepared ⟨"src"⟩ sampleOptions = .ok (plan, sources) ∧
      plan.generator.markers = Config.standard.markers ∧ plan.markerDiagnostics sources = [] ∧
      plan.fresh [] sources ≠ [] ∧ plan.generator.collect (plan.fresh [] sources) = .ok c ∧
      c.units = [sampleUnit] ∧ c.diagnostics = [] := by
  intro t
  have hprepared : (t.reading.prepared ⟨"src"⟩ sampleOptions).toOption.any fun (plan, sources) =>
      plan.generator.markers = Config.standard.markers ∧
      (plan.markerDiagnostics sources).isEmpty ∧ (plan.fresh [] sources).isEmpty = false ∧
      (plan.generator.collect (plan.fresh [] sources)).toOption.any fun c =>
        c.units = [sampleUnit] ∧ c.diagnostics = [] := by decide +kernel
  obtain ⟨⟨plan, sources⟩, hprepared, h⟩ := exists_of_any_toOption hprepared
  obtain ⟨hmarkers, hreported, hfresh, hcollected⟩ := of_decide_eq_true h
  obtain ⟨c, hcollect, h⟩ := exists_of_any_toOption hcollected
  obtain ⟨hunits, hdiagnostics⟩ := of_decide_eq_true h
  exact ⟨plan, sources, c, hprepared, hmarkers, List.isEmpty_iff.1 hreported,
    List.isEmpty_eq_false_iff.1 hfresh, hcollect, hunits, hdiagnostics⟩

/-- A unit and a temporary file that are left from before are replaced. -/
theorem run_generate_sample : (generate ⟨"src"⟩ ⟨"out"⟩ sampleOptions : StateM Disk _).run
      (.ofTree (sampleTree [(["out", "AP.rs"], .file (.text "old")),
        (["out", "AP.rs.tmp"], .file (.text "older"))])) =
    (.ok ⟨[sampleUnit.name], 0, 0⟩,
      .ofTree (sampleTree [(["out", "AP.rs"], .file (.text sampleUnit.text))])) := by
  obtain ⟨plan, sources, c, hprepared, hmarkers, hreported, hfresh, hcollect, hunits,
    hdiagnostics⟩ := prepared_sample
  obtain ⟨f, hf, hfound, hsettled⟩ := sampleUnit_source
  have hwrite : ((Disk.emitter ⟨"out"⟩).packed sampleUnit.name sampleUnit.text).run
      ([], .ofTree (sampleTree [(["out", "AP.rs"], .file (.text "old")),
        (["out", "AP.rs.tmp"], .file (.text "older"))])) = (.ok (), [sampleUnit.name],
      .ofTree (sampleTree [(["out", "AP.rs"], .file (.text sampleUnit.text))])) :=
    Prod.ext_iff.2 (by decide +kernel)
  have hemits := Emits.taken hwrite .done
  rw [← hunits] at hemits
  have hnext : c.units.mapM GeneratedUnit.source = .ok [f] := by
    rw [hunits, List.mapM_cons, hf]
    rfl
  have hnone : plan.discover [f] = [] := by simp [RunPlan.discover, hmarkers, hfound]
  have hrun := run_generate_of_single (d := .ofTree (sampleTree _)) hprepared hfresh hcollect
    hemits hnext hnone
  rw [hrun, hreported, hdiagnostics, hunits]
  simp [RunPlan.markerDiagnostics, hmarkers, hsettled, Diagnostic.warningCount,
    Diagnostic.errorCount]

end PatternFactory
