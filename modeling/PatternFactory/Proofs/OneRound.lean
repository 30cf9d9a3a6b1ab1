import PatternFactory.Proofs.Calls
import PatternFactory.Proofs.Identity
import PatternFactory.Proofs.UnitItems
import PatternFactory.Proofs.ValidConfig

/-!
# The standard renderer leads to one round

A run with the standard renderer into an empty store does not need a second round, and nothing that
it emits is refused (`RunPlan.run_standard`): the items of its units are no declarations, and the
units of a round have different names.  What may go wrong is that a unit cannot be rendered, or that
its text cannot be read.

That a text, if it can be read, has the items that were printed is not proved here; `ReadsBack`
states what is needed of it.
-/

namespace PatternFactory

/-! ### Emitting into a store -/

namespace UnitStore

/-- A store takes units of different names that it does not hold. -/
theorem emits_of_new {st : UnitStore} {units : List GeneratedUnit}
    (hnodup : ((st.arrived ++ units).map GeneratedUnit.name).Nodup) :
    Emits (UnitStore.emitter : Emitter (StateM UnitStore)) units st units (.ok ())
      ⟨st.arrived ++ units⟩ := by
  induction units generalizing st with
  | nil =>
    rw [List.append_nil]
    exact .done
  | cons u rest ih =>
    have hnew : st.contains u.name = false := by
      rw [List.map_append, List.nodup_append] at hnodup
      exact contains_eq_false_iff.2 fun hmem => hnodup.2.2 _ hmem _ (by simp) rfl
    rw [List.append_cons] at hnodup ⊢
    exact .taken (run_emitter_of_new hnew) (ih hnodup)

end UnitStore

/-! ### Runs whose units hold no declarations -/

/-- How a run that fills a store ends if it needs no second round and nothing is refused. -/
inductive EndsEarly (store : UnitStore) : Except Failure (List RoundReport) → Prop
  /-- There was one round, or there was nothing to do. -/
  | done {reports} (hlength : reports.length ≤ 1) : EndsEarly store (.ok reports)
  /-- A unit cannot be rendered. -/
  | unrenderable {q} : EndsEarly store (.error (.unrenderable q))
  /-- A unit was emitted, but its text cannot be read. -/
  | unreadable {u e} (hu : u ∈ store.arrived) (he : File.ofText u.text = .error e) :
      EndsEarly store (.error (.badSource (unitPath generatedRoot u.name) e))

namespace RunPlan

variable {p : RunPlan} {sources : List SourceFile}

/-- A run stops after its first round if there are no declarations in the units. -/
theorem Runs.single {σ : Type} {emit : Emitter (StateM σ)} {s s' : σ} {own : List Diagnostic}
    {r : Round} {next : List SourceFile} (hfound : r.found = p.fresh [] sources)
    (hne : r.found ≠ [])
    (hround : (p.generator.runRound emit r.found).run s = (⟨own, r.result⟩, s'))
    (hnext : r.next = .ok next) (hnone : p.discover next = []) :
    p.Runs emit p.rounds [] sources s
      ⟨[r], p.markerDiagnostics sources ++ own ++ p.markerDiagnostics next, .ok ()⟩ s' := by
  obtain ⟨left, hleft⟩ := p.exists_rounds_eq
  rw [hleft]
  exact .round hfound hne hround hnext (.settled (by rw [fresh, hnone]; rfl))

/-- If there are no declarations in the units of the first round, as far as they can be read, then
there is no second one. -/
theorem endsEarly_of_barren (hbarren : ∀ u ∈ p.generator.collected (p.fresh [] sources), ∀ f,
      u.source = .ok f → f.discover p.generator.markers = []) :
    let emit : Emitter (StateM UnitStore) := UnitStore.emitter
    let run := (p.run emit sources).run .empty
    EndsEarly run.2 run.1.result := by
  intro emit
  by_cases hfresh : p.fresh [] sources = []
  · rw [(Runs.settled hfresh).run_eq]
    exact .done (by simp [Course.reports])
  cases hcollect : p.generator.collect (p.fresh [] sources) with
  | error failure =>
    obtain ⟨q, rfl⟩ := Generator.collect_failure hcollect
    rw [(Runs.of_collect_eq_error hcollect).run_eq]
    exact .unrenderable
  | ok c =>
    rw [Generator.collected_of_ok hcollect] at hbarren
    -- The store is empty and the names differ, so every unit is taken.
    let r : Round := ⟨p.fresh [] sources, .ok c.units⟩
    have hmakes : r.Makes p.generator emit .empty c.units c.diagnostics ⟨c.units⟩ :=
      .handed hcollect (UnitStore.emits_of_new (Generator.nodup_units hcollect)) rfl
    cases hnext : r.next with
    | error failure =>
      obtain ⟨u, hu, hread⟩ := exists_of_mapM_eq_error hnext
      obtain ⟨e, he, rfl⟩ := readSource_eq_error hread
      obtain ⟨left, hleft⟩ := p.exists_rounds_eq
      have hruns : p.Runs emit (left + 1) [] sources .empty _ _ :=
        .failed rfl hfresh hmakes.run_eq hnext
      rw [← hleft] at hruns
      rw [hruns.run_eq]
      exact .unreadable hu (SourceFile.of_parse_eq_error he)
    | ok next =>
      have hnone : p.discover next = [] := List.flatMap_eq_nil_iff.2 fun f hf => by
        obtain ⟨u, hu, hread⟩ := (mem_of_mapM_eq_ok (Round.of_next_eq_ok hnext).2).1 hf
        exact hbarren u hu f hread
      rw [(Runs.single rfl hfresh hmakes.run_eq hnext hnone).run_eq]
      exact .done (by simp [Course.reports])

end RunPlan

/-! ### Printing and reading back -/

/-- If the text of a unit of these items can be read, what is read has the same outlines. -/
def ReadsBack (items : List Item) : Prop :=
  ∀ text, Doc.render? (unitDocs items) = some text → ∀ read,
    File.ofText (unitHeader ++ text) = .ok read → read.map Item.outline = items.map Item.outline

/-- Does what can be read of the text of a unit of these items have their outlines? -/
def readsBack (items : List Item) : Bool :=
  match Doc.render? (unitDocs items) with
  | none => true
  | some text =>
    match File.ofText (unitHeader ++ text) with
    | .ok read => read.map Item.outline = items.map Item.outline
    | .error _ => true

theorem readsBack_iff {items : List Item} : readsBack items ↔ ReadsBack items := by
  unfold readsBack ReadsBack
  cases Doc.render? (unitDocs items) with
  | none => simp
  | some text =>
    simp only [Option.some.injEq, forall_eq']
    cases File.ofText (unitHeader ++ text) <;> simp

/-- To check what is read back, it is enough to know the text that is printed. -/
theorem readsBack_of_text {items : List Item} {text : String}
    (htext : (Doc.render? (unitDocs items)).all fun body => unitHeader ++ body = text)
    (hread : (File.ofText text).toOption.all fun read =>
      read.map Item.outline = items.map Item.outline) : readsBack items := by
  unfold readsBack
  cases hbody : Doc.render? (unitDocs items) with
  | none => rfl
  | some body =>
    rw [hbody, Option.all_some, decide_eq_true_iff] at htext
    dsimp only
    rw [htext]
    cases hparsed : File.ofText text with
    | error e => rfl
    | ok read => rwa [hparsed] at hread

theorem Renderer.standard_eq_some {rt : Path} {name : String} {d : Declaration} {text : String}
    (h : Renderer.standard rt name d = some text) :
    ∃ items body, d.unitItems? rt name = some items ∧
      Doc.render? (unitDocs items) = some body ∧ text = unitHeader ++ body := by
  obtain ⟨items, hitems, h⟩ := Option.bind_eq_some_iff.1 h
  obtain ⟨body, hbody, h⟩ := Option.bind_eq_some_iff.1 h
  exact ⟨items, body, hitems, hbody, (Option.some.inj h).symm⟩

/-- What is read back has plain outlines, if what was printed has. -/
theorem ReadsBack.plain {items read : List Item} {text : String} (h : ReadsBack items)
    (hplain : ∀ i ∈ items, i.Plain) (htext : Doc.render? (unitDocs items) = some text)
    (hread : File.ofText (unitHeader ++ text) = .ok read) : ∀ i ∈ read, i.Plain := by
  intro i hi
  have hmem : i.outline ∈ items.map Item.outline :=
    h text htext read hread ▸ List.mem_map_of_mem hi
  obtain ⟨item, hitem, houtline⟩ := List.mem_map.1 hmem
  change i.outline.Plain
  exact houtline ▸ hplain item hitem

namespace RunPlan

/-- **With the standard renderer there is at most one round, and no emission fails.** -/
theorem run_standard (c : Config) (hc : c.validate = .ok ()) (sources : List SourceFile)
    (hprinted : ∀ rt, readRuntimePath c.runtimePath = .ok rt → ∀ s ∈ sources,
      ∀ found ∈ s.discover c.markers, ∀ items,
        let d := found.declaration c.markers
        d.unitItems? rt (d.unitName c.suffix).name = some items → ReadsBack items) :
    ∃ p, RunPlan.ofConfig c = .ok p ∧
      let emit : Emitter (StateM UnitStore) := UnitStore.emitter
      let run := (p.run emit sources).run .empty
      EndsEarly run.2 run.1.result := by
  obtain ⟨rt, hrt, hp⟩ := exists_ofConfig hc
  refine ⟨_, hp, endsEarly_of_barren fun u hu f hf => ?_⟩
  generalize hg : Generator.ofConfig c (.standard rt) = g at hu ⊢
  cases hcollect : g.collect (fresh ⟨g, c.roundLimit, c.declarationMarker⟩ [] sources) with
  | error failure =>
    rw [Generator.collected, hcollect] at hu
    cases hu
  | ok collection =>
    rw [Generator.collected_of_ok hcollect] at hu
    -- The unit was rendered for a declaration in one of the sources.
    obtain ⟨found, ⟨before, after, hfresh, hderives, -⟩, htext⟩ :=
      (Generator.mem_units_iff hcollect).1 hu
    have hmem : found ∈ unseen [] (discover ⟨g, c.roundLimit, c.declarationMarker⟩ sources) := by
      change found ∈ fresh _ _ _
      rw [hfresh]
      simp
    obtain ⟨s, hs, hfound⟩ := List.mem_flatMap.1 (unseen_sublist.subset hmem)
    simp only [Generator.derives, Bool.and_eq_true, decide_eq_true_eq] at hderives
    subst hg
    obtain ⟨items, body, hitems, hbody, hunit⟩ := Renderer.standard_eq_some htext
    have hread : File.ofText (unitHeader ++ body) = .ok f.items :=
      hunit ▸ (SourceFile.of_parse_eq_ok (readSource_eq_ok hf)).1
    have hback : ReadsBack items := hprinted rt hrt s hs found hfound items (hderives.2 ▸ hitems)
    exact SourceFile.discover_eq_nil_of_plain
      (hback.plain (Declaration.plain_of_unitItems hitems) hbody hread)

/-- A configuration under which the attribute that the renderer writes is a marker. -/
def docConfig : Config :=
  { Config.standard with
    declarationMarker := "doc", extractorMarker := "u", suffix := "S", runtimePath := "r" }

/-- A source with one declaration under that configuration. -/
def docSource : SourceFile :=
  ⟨⟨"lib.rs"⟩, .root,
    (File.ofText "#[doc]mod a{#[u]pub fn f(v:&u8)->Option<()>{None}}").toOption.getD []⟩

/-- The text of the unit for that declaration. -/
def docUnitText : String :=
  "// @generated by patgen. Do not edit.\n\n/// Pattern factories for `a`.\n" ++
    "pub struct aS;\nimpl aS \x7b\n    /// Pattern backed by `a::f`.\n" ++
    "    pub fn f() -> r::Pattern0<u8> \x7b\n" ++
    "        r::Pattern0::new(|value: &u8| a::f(value))\n    \x7d\n\x7d\n"

theorem discover_doc : (docSource.discover docConfig.markers).length = 1 ∧
    (readRuntimePath docConfig.runtimePath).toOption.all fun rt =>
      (docSource.discover docConfig.markers).all fun found =>
        let d := found.declaration docConfig.markers
        (d.unitItems? rt (d.unitName docConfig.suffix).name).all fun items =>
          ((Doc.render? (unitDocs items)).all fun body => unitHeader ++ body = docUnitText) &&
            (File.ofText docUnitText).toOption.all fun read =>
              read.map Item.outline = items.map Item.outline := by
  -- the characters of both texts are given once
  have htext : docUnitText = .ofList _ :=
    append_eq_ofList (append_eq_ofList (append_eq_ofList rfl rfl) rfl) rfl
  have hsource : "#[doc]mod a{#[u]pub fn f(v:&u8)->Option<()>{None}}" = .ofList _ := rfl
  rw [htext, docSource, hsource, File.ofText_ofList, File.ofText_ofList]
  decide +kernel

/-- The struct of the unit carries the marker of declarations, but there is no second round. -/
theorem run_standard_doc :
    docConfig.validate = .ok () ∧ (docSource.discover docConfig.markers).length = 1 ∧
      ∃ p, RunPlan.ofConfig docConfig = .ok p ∧
        let emit : Emitter (StateM UnitStore) := UnitStore.emitter
        let run := (p.run emit [docSource]).run .empty
        EndsEarly run.2 run.1.result := by
  have hc : docConfig.validate = .ok () := by decide +kernel
  obtain ⟨hlength, hread⟩ := discover_doc
  refine ⟨hc, hlength, run_standard docConfig hc [docSource] fun rt hrt s hs found hfound => ?_⟩
  intro items d hitems
  obtain rfl := List.mem_singleton.1 hs
  rw [hrt] at hread
  have hback := List.all_eq_true.1 hread found hfound
  dsimp only at hback
  rw [hitems] at hback
  obtain ⟨htext, hback⟩ := Bool.and_eq_true_iff.1 hback
  exact readsBack_iff.1 (readsBack_of_text htext hback)

end RunPlan

end PatternFactory
