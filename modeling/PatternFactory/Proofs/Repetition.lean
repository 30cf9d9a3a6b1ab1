import PatternFactory.Proofs.RoundLimit

/-!
# Repeated sources

A run knows a declaration by its identity and takes the first one of each identity.  So sources that
hold identities of other sources only are absorbed when they come behind these: what is new in the
first round is the same (`RunPlan.fresh_append_eq_iff`), and the sources have no other effect than
through what is new and through the diagnostics about their markers
(`RunPlan.Runs.of_fresh_eq`).  It does not matter what the repeated declarations are made of.
-/

namespace PatternFactory

namespace RunPlan

variable {σ : Type} {p : RunPlan} {emit : Emitter (StateM σ)} {left : Nat} {seen : List String}
  {sources sources' : List SourceFile} {s s' : σ} {c : Course}

theorem fresh_append : p.fresh seen (sources ++ sources') =
    p.fresh seen sources ++ p.fresh (seen ++ p.identities sources) sources' := by
  rw [fresh, discover, List.flatMap_append]
  exact unseen_append

/-- **Further sources add nothing new** just when all their identities are known. -/
theorem fresh_append_eq_iff : p.fresh seen (sources ++ sources') = p.fresh seen sources ↔
    ∀ x ∈ p.identities sources', x ∈ seen ∨ x ∈ p.identities sources := by
  rw [fresh_append, List.append_right_eq_self, ← not_iff_not, ← ne_eq, fresh_ne_nil_iff]
  simp

/-- **A run depends on its sources through what is new in them**, apart from the diagnostics about
their markers, which come first. -/
theorem Runs.of_fresh_eq (h : p.Runs emit left seen sources s c s')
    (hfresh : p.fresh seen sources' = p.fresh seen sources) :
    ∃ rest, c.diagnostics = p.markerDiagnostics sources ++ rest ∧
      p.Runs emit left seen sources' s ⟨c.rounds, p.markerDiagnostics sources' ++ rest, c.result⟩
        s' := by
  cases h with
  | settled hnil =>
    refine ⟨[], (List.append_nil _).symm, ?_⟩
    rw [List.append_nil]
    exact .settled (hfresh.trans hnil)
  | exhausted hne =>
    refine ⟨[], (List.append_nil _).symm, ?_⟩
    rw [List.append_nil]
    exact .exhausted (hfresh ▸ hne)
  | failed hfound hne hround hnext =>
    exact ⟨_, rfl, .failed (hfound.trans hfresh.symm) hne hround hnext⟩
  | round hfound hne hround hnext hrest =>
    refine ⟨_, List.append_assoc .., ?_⟩
    rw [← List.append_assoc]
    exact .round (hfound.trans hfresh.symm) hne hround hnext hrest

/-- **Repeated sources are absorbed.**  Let all declarations of some further sources have the
identities of declarations in the sources.  Then a run over both begins the same rounds, with the
same declarations in them, and has the same reports or the same failure; the emitter is given the
same units and ends in the same state.  The diagnostics are the same but for those about the markers
of the further sources, which stand behind those about the markers of the others. -/
theorem run_append_of_repeated (p : RunPlan) (emit : Emitter (StateM σ)) (s : σ)
    (sources again : List SourceFile)
    (hagain : ∀ d ∈ p.discover again, ∃ e ∈ p.discover sources, e.identity = d.identity) :
    let run := fun files => (p.run emit files).run s
    let rounds := fun files => ((p.course emit files).run s).1.rounds
    let calls := fun files => ((p.run emit.logged files).run (s, [])).2.2
    (run (sources ++ again)).1.result = (run sources).1.result ∧
    (run (sources ++ again)).2 = (run sources).2 ∧
    rounds (sources ++ again) = rounds sources ∧ calls (sources ++ again) = calls sources ∧
    ∃ rest, (run sources).1.diagnostics = p.markerDiagnostics sources ++ rest ∧
      (run (sources ++ again)).1.diagnostics =
        p.markerDiagnostics sources ++ p.markerDiagnostics again ++ rest := by
  intro run rounds calls
  have hfresh : p.fresh [] (sources ++ again) = p.fresh [] sources := by
    refine fresh_append_eq_iff.2 fun x hx => .inr ?_
    obtain ⟨d, hd, rfl⟩ := List.mem_map.1 hx
    exact List.mem_map.2 (hagain d hd)
  have hmarkers : p.markerDiagnostics (sources ++ again) =
      p.markerDiagnostics sources ++ p.markerDiagnostics again := List.flatMap_append
  obtain ⟨c, s', parts, hruns, hlogged, (hrun : run sources = _), hrounds, hcalls, -⟩ :=
    p.exists_run emit sources s
  obtain ⟨rest, hrest, hruns'⟩ := hruns.of_fresh_eq hfresh
  obtain ⟨_, -, hlogged'⟩ := hlogged.of_fresh_eq hfresh
  have hrun' : run (sources ++ again) = (Course.reported _, s') := hruns'.run_eq
  have hrounds' : rounds (sources ++ again) = c.rounds := congrArg (·.1.rounds) hruns'.courseFrom_eq
  have hcalls' : calls (sources ++ again) = parts.flatten := congrArg (·.2.2) hlogged'.run_eq
  refine ⟨?_, ?_, hrounds'.trans hrounds.symm, hcalls'.trans hcalls.symm, rest, ?_, ?_⟩
  · rw [hrun', hrun]
    rfl
  · rw [hrun', hrun]
  · rw [hrun]
    exact hrest
  · rw [hrun', ← hmarkers]
    rfl

/-- The same declaration once more, with another body, and a marker where none is allowed. -/
def chainAgain : SourceFile :=
  ⟨⟨"a.rs"⟩, .root, (File.ofText "#[p]mod A{}#[p]fn g(){}").toOption.getD []⟩

/-- The source that is read again adds a warning and nothing else. -/
theorem chain_absorbs :
    let emit : Emitter (StateM UnitStore) := UnitStore.emitter
    let run := fun files => (chainPlan.run emit files).run .empty
    (∀ d ∈ chainPlan.discover [chainAgain], ∃ e ∈ chainPlan.discover [chainSource],
      e.identity = d.identity) ∧
    (chainPlan.markerDiagnostics [chainAgain]).length = 1 ∧
    (run [chainSource]).1.result = .ok [⟨1, 1, [⟨.root, "AS"⟩]⟩, ⟨2, 1, []⟩] ∧
    (run [chainSource, chainAgain]).1.result = (run [chainSource]).1.result ∧
    (run [chainSource, chainAgain]).2 = (run [chainSource]).2 := by
  intro emit run
  have hagain : ∀ d ∈ chainPlan.discover [chainAgain], ∃ e ∈ chainPlan.discover [chainSource],
      e.identity = d.identity := by decide +kernel
  obtain ⟨hresult, hstate, -⟩ :=
    run_append_of_repeated chainPlan emit .empty [chainSource] [chainAgain] hagain
  exact ⟨hagain, by decide +kernel, by decide +kernel, hresult, hstate⟩

end RunPlan

end PatternFactory
