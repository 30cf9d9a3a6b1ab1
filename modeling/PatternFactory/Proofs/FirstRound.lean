import PatternFactory.Generation.Store
import PatternFactory.Proofs.Collecting
import PatternFactory.Proofs.Course
import PatternFactory.Proofs.Identity

/-!
# The first round over one file

A run over one file hands the declarations of the file to its first round, except those whose
identity it has met before.  In one file an identity is a key and a line.  So the round is given
everything exactly if no two declarations of one key stand on one line
(`RunPlan.first_round_of_file`), and then its units and its diagnostics are those of all the
declarations.

Otherwise the first declaration of a key and a line hides the others.  These are dropped without a
diagnostic, although they would collide with it (`RunPlan.one_line_conflates`).
-/

namespace PatternFactory

/-- The declarations have one key and stand on one line. -/
def MarkedDeclaration.Alike (d e : MarkedDeclaration) : Prop :=
  d.key = e.key ∧ d.origin.line = e.origin.line

instance {d e : MarkedDeclaration} : Decidable (d.Alike e) := inferInstanceAs (Decidable (_ ∧ _))

section

variable {m : Markers} {f : SourceFile} {d e : MarkedDeclaration}

theorem identity_eq_iff_alike (hd : d ∈ f.discover m) (he : e ∈ f.discover m) :
    d.identity = e.identity ↔ d.Alike e := by
  refine MarkedDeclaration.identity_eq_iff_of_file_eq ?_
  rw [SourceFile.origin_file_of_mem_discover hd, SourceFile.origin_file_of_mem_discover he]

theorem nodup_identities_iff {ds : List MarkedDeclaration} (hds : ∀ d ∈ ds, d ∈ f.discover m) :
    (ds.map MarkedDeclaration.identity).Nodup ↔ ds.Pairwise fun d e => ¬ d.Alike e := by
  rw [List.Nodup, List.pairwise_map]
  refine List.Pairwise.iff_of_mem fun hd he => not_congr ?_
  exact identity_eq_iff_alike (hds _ hd) (hds _ he)

/-- One declaration is kept for each key and line. -/
theorem exists_alike_unseen (hd : d ∈ f.discover m) :
    ∃ e ∈ unseen [] (f.discover m), e.Alike d := by
  have hmem := mem_identities_unseen.2 ⟨List.not_mem_nil, List.mem_map_of_mem hd⟩
  obtain ⟨e, he, heq⟩ := List.mem_map.1 hmem
  exact ⟨e, he, (identity_eq_iff_alike (unseen_sublist.subset he) hd).1 heq⟩

end

namespace RunPlan

variable {σ : Type} {p : RunPlan} {emit : Emitter (StateM σ)} {left : Nat} {seen : List String}
  {sources : List SourceFile} {s s' : σ} {c : Course}

/-- A run that may go on and has something new begins a round. -/
theorem Runs.exists_first_round (h : p.Runs emit left seen sources s c s') (hleft : 0 < left)
    (hne : p.fresh seen sources ≠ []) :
    ∃ r own s₁, c.rounds[0]? = some r ∧ r.found = p.fresh seen sources ∧
      (p.generator.runRound emit r.found).run s = (⟨own, r.result⟩, s₁) ∧
      p.markerDiagnostics sources ++ own <+: c.diagnostics := by
  cases h with
  | settled hfresh => exact absurd hfresh hne
  | exhausted => cases hleft
  | failed hfound _ hround => exact ⟨_, _, _, rfl, hfound, hround, List.prefix_refl _⟩
  | round hfound _ hround => exact ⟨_, _, _, rfl, hfound, hround, List.prefix_append _ _⟩

/-- **What the first round over one file is given.**  It is given some of the declarations, one for
each key and line, and these are all declarations exactly if no two of one key stand on one line.
The units that it emits are those that are collected for what it is given, and the diagnostics on
the way to them are reported, those about contested names among them. -/
theorem first_round_of_file (p : RunPlan) (emit : Emitter (StateM σ)) (s : σ) (f : SourceFile)
    (h : f.discover p.generator.markers ≠ []) :
    let ds := f.discover p.generator.markers
    let c := ((p.course emit [f]).run s).1
    ∃ r, c.rounds[0]? = some r ∧
      (r.found = ds ↔ ds.Pairwise fun d e => ¬ d.Alike e) ∧
      r.found.Sublist ds ∧ (r.found.Pairwise fun d e => ¬ d.Alike e) ∧
      (∀ d ∈ ds, ∃ e ∈ r.found, e.Alike d) ∧
      (∀ units, r.result = .ok units →
        (p.generator.collect r.found).map Collection.units = .ok units) ∧
      ∀ collection, p.generator.collect r.found = .ok collection →
        p.markerDiagnostics [f] ++ collection.diagnostics <+: c.diagnostics ∧
          ∀ q, p.generator.Contested r.found q →
            collisionDiagnostics q (p.generator.parties (p.generator.declarations r.found) q) ⊆
              c.diagnostics := by
  intro ds c
  have hfresh : p.fresh [] [f] = unseen [] ds := by rw [fresh, discover, List.flatMap_singleton]
  -- the first declaration is new in any case, so a round is begun
  have hne : p.fresh [] [f] ≠ [] := by
    obtain ⟨d, hd⟩ := List.exists_mem_of_ne_nil _ h
    obtain ⟨e, he, -⟩ := exists_alike_unseen hd
    rw [hfresh]
    exact List.ne_nil_of_mem he
  have hruns : p.Runs emit p.rounds [] [f] s c _ := runs_courseFrom
  obtain ⟨r, own, s₁, hr, hfound, hround, hdiagnostics⟩ :=
    hruns.exists_first_round (Nat.le_max_left ..) hne
  rw [hfresh] at hfound
  refine ⟨r, hr, ?_, hfound ▸ unseen_sublist, ?_, ?_, fun units hunits => ?_,
    fun collection hcollect => ?_⟩
  · rw [hfound, unseen_eq_self_iff, nodup_identities_iff fun _ => id]
  · rw [hfound, ← nodup_identities_iff fun _ hd => unseen_sublist.subset hd]
    exact nodup_unseen
  · rw [hfound]
    exact fun _ => exists_alike_unseen
  · obtain ⟨collection, hcollect, rfl⟩ :=
      Generator.collect_of_runRound ((congrArg (·.1.result) hround).trans hunits)
    rw [hcollect]
    rfl
  · rw [Generator.runRound_of_ok hcollect] at hround
    obtain rfl : collection.diagnostics = own := congrArg (·.1.diagnostics) hround
    refine ⟨hdiagnostics, fun q hq x hx => hdiagnostics.subset ?_⟩
    exact List.mem_append_right _ (hq.reported hcollect hx)

/-- A plan for one round in which every unit is empty. -/
def emptyPlan : RunPlan :=
  ⟨⟨⟨"patterns", "unapply"⟩, "Patterns", 8, fun _ _ => some ""⟩, 1, "patterns"⟩

/-- A source in the root namespace. -/
def libSource (text : String) : SourceFile :=
  ⟨⟨"src/lib.rs"⟩, .root, (File.ofText text).toOption.getD []⟩

/-- Of two lines both declarations are given to the first round. -/
theorem first_round_of_two_lines :
    let emit : Emitter (StateM UnitStore) := UnitStore.emitter
    let f := libSource "#[patterns]impl A{}\n#[patterns]impl A{}"
    let ds := f.discover emptyPlan.generator.markers
    ds.length = 2 ∧
      ∃ r, ((emptyPlan.course emit [f]).run .empty).1.rounds[0]? = some r ∧ r.found = ds := by
  intro emit f ds
  have hds : ds.length = 2 ∧ ds.Pairwise fun d e => ¬ d.Alike e := by decide +kernel
  obtain ⟨r, hr, hfound, -⟩ := first_round_of_file emptyPlan emit .empty f
    (List.ne_nil_of_length_pos (by rw [hds.1]; exact Nat.two_pos))
  exact ⟨hds.1, r, hr, hfound.2 hds.2⟩

/-- On one line the first declaration hides the second.  Together they collide and get no unit, but
the run emits the unit of the first and reports nothing. -/
theorem one_line_conflates :
    let emit : Emitter (StateM UnitStore) := UnitStore.emitter
    let f := libSource ("#[patterns]impl A{#[unapply]pub fn a(v:u8)->Option<()>{None}} " ++
      "#[patterns]impl A{#[unapply]pub fn b(v:u8)->Option<()>{None}}")
    let ds := f.discover emptyPlan.generator.markers
    let c := ((emptyPlan.course emit [f]).run .empty).1
    ds.length = 2 ∧ (emptyPlan.generator.collect ds).map Collection.units = .ok [] ∧
      c.rounds.map (·.found.length) = [1] ∧
      c.rounds.map Round.units = [[⟨⟨.root, "APatterns"⟩, ""⟩]] ∧ c.diagnostics = [] := by
  rw [libSource, File.ofText_eq, String.toList_append]
  decide +kernel

end RunPlan

end PatternFactory
