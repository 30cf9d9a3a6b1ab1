import PatternFactory.Proofs.Confinement

/-!
# Runs with another emitter

What a run does depends on its emitter only through the answers.  So a run that ends well takes the
same course with any other emitter that takes all its units (`RunPlan.Runs.of_emits`).

An emitter may have a state beside that of the world it works in.  `Emitter.packed` takes both as
one, so that the rules for runs apply (`RunPlan.run_courseFrom_packed`).
-/

namespace PatternFactory

/-! ### Another monad -/

section

variable {m n : Type → Type} [MonadLiftT m n]

/-- The emitter in a larger monad. -/
def Emitter.lift (emit : Emitter m) : Emitter n := fun name text => monadLift (emit name text)

variable [Monad m] [Monad n] [LawfulMonadLiftT m n] (emit : Emitter m)

theorem emitAll_lift (units : List GeneratedUnit) :
    (monadLift (emitAll emit units) : n _) = emitAll emit.lift units := by
  induction units with
  | nil => exact monadLift_pure _
  | cons u rest ih =>
    rw [emitAll, emitAll, monadLift_bind]
    refine bind_congr fun answer => ?_
    cases answer with
    | error cause => exact monadLift_pure _
    | ok _ => exact ih

theorem Generator.runRound_lift (g : Generator) (found : List MarkedDeclaration) :
    (monadLift (g.runRound emit found) : n _) = g.runRound emit.lift found := by
  unfold runRound
  cases g.collect found with
  | error failure => exact monadLift_pure _
  | ok c =>
    dsimp only
    rw [monadLift_bind, emitAll_lift]
    refine bind_congr fun answer => ?_
    cases answer <;> exact monadLift_pure _

variable [LawfulMonad m] [LawfulMonad n]

/-- A run goes the same way in a larger monad. -/
theorem RunPlan.courseFrom_lift (p : RunPlan) (left : Nat) (seen : List String)
    (sources : List SourceFile) : (monadLift (p.courseFrom emit left seen sources) : n _) =
      p.courseFrom emit.lift left seen sources := by
  induction left generalizing seen sources with
  | zero =>
    unfold courseFrom
    dsimp only
    split <;> exact monadLift_pure _
  | succ left ih =>
    unfold courseFrom
    dsimp only
    split
    · exact monadLift_pure _
    · rw [monadLift_bind, Generator.runRound_lift]
      refine bind_congr fun r => ?_
      split
      · exact monadLift_pure _
      · rw [monadLift_map, ih]

end

/-! ### Two states as one -/

section

variable {ρ δ : Type}

/-- A program with a state of its own in a world, as a program on both. -/
def packed {α : Type} (x : StateT ρ (StateM δ) α) : StateM (ρ × δ) α := fun s =>
  let ((a, r), d) := (x.run s.1).run s.2
  (a, r, d)

theorem run_packed {α : Type} {x : StateT ρ (StateM δ) α} {r r' : ρ} {d d' : δ} {a : α} :
    (packed x).run (r, d) = (a, r', d') ↔ (x.run r).run d = ((a, r'), d') := by
  change (((x.run r).run d).1.1, ((x.run r).run d).1.2, ((x.run r).run d).2) = _ ↔ _
  obtain ⟨⟨⟨a', r₁⟩, d₁⟩, hx⟩ : ∃ y, (x.run r).run d = y := ⟨_, rfl⟩
  rw [hx]
  constructor <;> rintro ⟨⟩ <;> rfl

local instance packedLift : MonadLift (StateT ρ (StateM δ)) (StateM (ρ × δ)) := ⟨packed⟩

theorem packedLift_lawful : LawfulMonadLift (StateT ρ (StateM δ)) (StateM (ρ × δ)) :=
  ⟨fun _ => rfl, fun _ _ => rfl⟩

/-- An emitter with a state of its own in a world, as an emitter on both. -/
def Emitter.packed (emit : Emitter (StateT ρ (StateM δ))) : Emitter (StateM (ρ × δ)) :=
  fun name text => PatternFactory.packed (emit name text)

theorem RunPlan.run_courseFrom_packed {p : RunPlan} {emit : Emitter (StateT ρ (StateM δ))}
    {left : Nat} {seen : List String} {sources : List SourceFile} {r r' : ρ} {d d' : δ}
    {c : Course} : p.Runs emit.packed left seen sources (r, d) c (r', d') ↔
      ((p.courseFrom emit left seen sources).run r).run d = ((c, r'), d') := by
  have : LawfulMonadLift (StateT ρ (StateM δ)) (StateM (ρ × δ)) := packedLift_lawful
  rw [runs_iff, ← run_packed]
  have hlift : PatternFactory.packed (p.courseFrom emit left seen sources) =
      p.courseFrom emit.packed left seen sources :=
    p.courseFrom_lift (n := StateM (ρ × δ)) emit left seen sources
  rw [hlift]

/-- A program on a state, in a world that it leaves alone. -/
def aside {α : Type} (x : StateM ρ α) : StateT ρ (StateM δ) α := fun r d => (x.run r, d)

local instance asideLift : MonadLift (StateM ρ) (StateT ρ (StateM δ)) := ⟨aside⟩

theorem asideLift_lawful : LawfulMonadLift (StateM ρ) (StateT ρ (StateM δ)) :=
  ⟨fun _ => rfl, fun _ _ => rfl⟩

/-- A run that fills a store leaves the world alone. -/
theorem RunPlan.course_emitter_eq_aside (p : RunPlan) (sources : List SourceFile) :
    p.course (UnitStore.emitter : Emitter (StateT UnitStore (StateM δ))) sources =
      aside (p.course UnitStore.emitter sources) := by
  have : LawfulMonadLift (StateM UnitStore) (StateT UnitStore (StateM δ)) := asideLift_lawful
  have hemitter : (UnitStore.emitter : Emitter (StateT UnitStore (StateM δ))) =
      Emitter.lift (UnitStore.emitter : Emitter (StateM UnitStore)) := by
    funext name text st d
    change (UnitStore.emitter (m := StateM δ) name text st : StateM δ _) d =
      (UnitStore.emitter (m := Id) name text st, d)
    unfold UnitStore.emitter
    cases st.insert name text <;> rfl
  rw [hemitter]
  exact (p.courseFrom_lift (n := StateT UnitStore (StateM δ)) UnitStore.emitter p.rounds []
    sources).symm

end

/-! ### Another emitter that takes the units -/

section

variable {σ τ : Type} {emit : Emitter (StateM σ)} {emit' : Emitter (StateM τ)} {s s' : σ} {t t' : τ}

/-- Units that are all taken are taken in two parts. -/
theorem Emits.of_append {units more : List GeneratedUnit}
    (h : Emits emit (units ++ more) s (units ++ more) (.ok ()) s') :
    ∃ s₁, Emits emit units s units (.ok ()) s₁ ∧ Emits emit more s₁ more (.ok ()) s' := by
  induction units generalizing s with
  | nil => exact ⟨s, .done, h⟩
  | cons u rest ih =>
    rw [List.cons_append] at h
    generalize hall : rest ++ more = all at h
    cases h with
    | taken hu hrest =>
      subst hall
      obtain ⟨s₁, hfirst, hsecond⟩ := ih hrest
      exact ⟨s₁, .taken hu hfirst, hsecond⟩

/-- A round that is done goes the same way with an emitter that takes its units. -/
theorem Round.Makes.of_emits {g : Generator} {r : Round} {calls : List GeneratedUnit}
    {own : List Diagnostic} (h : r.Makes g emit s calls own s') (hr : r.result = .ok r.units)
    (h' : Emits emit' r.units t r.units (.ok ()) t') : r.Makes g emit' t r.units own t' := by
  cases h with
  | uncollected hc hresult => cases hr.symm.trans hresult
  | @handed c _ answer _ hc he hresult =>
    cases answer with
    | error failure => cases hr.symm.trans hresult
    | ok _ =>
      have hunits : r.units = c.units := Except.ok.inj (hr.symm.trans hresult)
      exact .handed hc (hunits ▸ h') hresult

/-- **A run that ends well takes the same course with any emitter that takes its units.** -/
theorem RunPlan.Runs.of_emits {p : RunPlan} {left : Nat} {seen : List String}
    {sources : List SourceFile} {c : Course} (h : p.Runs emit left seen sources s c s')
    (hc : c.result = .ok ())
    (h' : Emits emit' (c.rounds.flatMap Round.units) t (c.rounds.flatMap Round.units) (.ok ()) t') :
    p.Runs emit' left seen sources t c t' := by
  induction h generalizing t with
  | settled hfresh =>
    cases h'
    exact .settled hfresh
  | exhausted => cases hc
  | failed => cases hc
  | round hfound hne hround hnext _ ih =>
    -- the other emitter takes the units of this round first, and then those of the later rounds
    obtain ⟨t₁, hfirst, hrest⟩ := h'.of_append
    obtain ⟨calls, hmakes⟩ := Round.exists_makes hround
    have hmakes' := hmakes.of_emits (Round.of_next_eq_ok hnext).1 hfirst
    exact .round hfound hne hmakes'.run_eq hnext (ih hc hrest)

/-! ### The names of units -/

/-- A name of which a run can make a unit. -/
structure QualifiedName.Regular (q : QualifiedName) : Prop where
  proper : q.Proper
  built : ∃ names, q.namespace = .ofSegments names

/-- A source as a run reads it. -/
structure SourceFile.Regular (s : SourceFile) : Prop where
  proper : s.Proper
  built : ∃ names, s.namespace = .ofSegments names

theorem Item.Below.built {ns ns' : Namespace} {items : List Item} {item : Item}
    (h : Below ns items ns' item) (hns : ∃ names, ns = .ofSegments names) :
    ∃ names, ns' = .ofSegments names := by
  induction h with
  | here => exact hns
  | inside _ _ ih => exact ih ⟨_, rfl⟩

theorem SourceFile.Regular.of_mem_discover {s : SourceFile} (hs : s.Regular) {m : Markers}
    {d : MarkedDeclaration} (h : d ∈ s.discover m) :
    d.namespace.Proper ∧ ∃ names, d.namespace = .ofSegments names := by
  obtain ⟨-, item, -, hbelow⟩ := exists_below_of_mem_discover h hs.proper.items
  exact ⟨hs.proper.of_mem_discover h, hbelow.built hs.built⟩

theorem SourceFile.regular_of_readSource {path : PathName} {names : List String} {text : String}
    {s : SourceFile} (h : readSource path (.ofSegments names) text = .ok s)
    (hproper : (Namespace.ofSegments names).Proper) : s.Regular := by
  have hparse := readSource_eq_ok h
  obtain ⟨-, -, hns⟩ := SourceFile.of_parse_eq_ok hparse
  exact ⟨SourceFile.proper_of_parse hparse hproper, names, hns⟩

theorem regular_of_sourceOf {root path : PathName} {text : String} {s : SourceFile}
    (h : sourceOf root path text = .ok s) : s.Regular :=
  SourceFile.regular_of_readSource h (proper_modulePath root path)

theorem Generator.regular_of_collect {g : Generator} (hg : g.renderer.Worded)
    {found : List MarkedDeclaration} (hfound : ∀ d ∈ found, d.namespace.Proper ∧
      ∃ names, d.namespace = .ofSegments names)
    {c : Collection} (h : g.collect found = .ok c) {u : GeneratedUnit} (hu : u ∈ c.units) :
    u.name.Regular := by
  refine ⟨proper_of_collect hg (fun d hd => (hfound d hd).1) h hu, ?_⟩
  obtain ⟨d, hd, hname, -⟩ := exists_of_mem_units h hu
  exact hname ▸ (hfound d hd).2

/-- **The units of a run have regular names** if its sources are regular. -/
theorem RunPlan.Runs.regular {p : RunPlan} (hp : p.generator.renderer.Worded) {left : Nat}
    {seen : List String} {sources : List SourceFile} {c : Course}
    (h : p.Runs emit left seen sources s c s') (hs : ∀ f ∈ sources, f.Regular)
    (hc : c.result = .ok ()) : ∀ u ∈ c.rounds.flatMap Round.units, u.name.Regular := by
  induction h with
  | settled => exact nofun
  | exhausted => cases hc
  | failed => cases hc
  | @round left seen sources s own r next s₁ c s' hfound hne hround hnext _ ih =>
    have hdeclared : ∀ d ∈ r.found, d.namespace.Proper ∧
        ∃ names, d.namespace = .ofSegments names := fun d hd => by
      obtain ⟨f, hf, hd⟩ := List.mem_flatMap.1 (unseen_sublist.subset (hfound ▸ hd))
      exact (hs f hf).of_mem_discover hd
    obtain ⟨hresult, hsources⟩ := Round.of_next_eq_ok hnext
    obtain ⟨collection, hcollect, hunits⟩ := Generator.collect_of_runRound (by rw [hround, hresult])
    have hown : ∀ u ∈ r.units, u.name.Regular := fun u hu =>
      Generator.regular_of_collect hp hdeclared hcollect (hunits ▸ hu)
    refine fun u hu => ?_
    rcases List.mem_append.1 hu with hu | hu
    · exact hown u hu
    · -- a unit is read again in the namespace of its name
      refine ih (fun f hf => ?_) hc u hu
      obtain ⟨v, hv, hread⟩ := (mem_of_mapM_eq_ok hsources).1 hf
      obtain ⟨names, hnames⟩ := (hown v hv).built
      rw [GeneratedUnit.source, hnames] at hread
      exact SourceFile.regular_of_readSource hread (hnames ▸ (hown v hv).proper.namespace)

end

end PatternFactory
