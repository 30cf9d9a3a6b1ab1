import PatternFactory.Proofs.Words

/-!
# Readers keep to their tokens

A reader makes no tokens: what it leaves behind is a suffix of what it was given, or of what it
was given before.  So a property of tokens that goes over to what is left when the first is taken
away is kept by every reader.  `Reader.Keeps R p` states this for the property `R`; it is a class,
with an instance for each way in which readers are put together, so that instance search goes
through the code of a reader.  `Reader.Yields P p` is about tokens in which every word is one, and
adds that the result has the property `P`.

What is read inside of a group leaves nothing behind it.  So nothing is asked of the content of a
group, unless the result depends on it.
-/

namespace PatternFactory

/-- The property goes over to what is left when the first token is taken away. -/
class Tokens.Closed (R : List Token → Prop) : Prop where
  tail : ∀ {t : Token} {ts : List Token}, R (t :: ts) → R ts

open Tokens (Closed)

instance : Closed Tokens.Lexed := ⟨fun h => h.2⟩

/-- What is left of some tokens is a suffix of them. -/
instance (ts : List Token) : Closed (· <:+ ts) := ⟨fun h => (List.suffix_cons _ _).trans h⟩

variable {R : List Token → Prop}

/-- Tokens that have the property, as those have that a reader was given. -/
class Known (R : List Token → Prop) (ts : List Token) : Prop where
  holds : R ts

theorem Known.tail [hR : Closed R] {t : Token} {ts : List Token} (h : Known R (t :: ts)) :
    Known R ts := ⟨hR.tail h.holds⟩

instance Known.drop [hR : Closed R] (ts : List Token) (n : Nat) [h : Known R ts] :
    Known R (ts.drop n) := by
  induction n generalizing ts with
  | zero => exact h
  | succ n ih =>
    cases ts with
    | nil => exact h
    | cons t ts => exact @ih ts h.tail

namespace Reader

variable {α β σ : Type}

/-- What the reader leaves has the property, if what it is given has. -/
class Keeps (R : List Token → Prop) (p : Reader α) : Prop where
  holds : ∀ {s : ReadState} {a : α} {s' : ReadState}, p s = .ok (a, s') → R s.rest → R s'.rest

/-- The reader keeps to lexed tokens, and what it yields from them has the property. -/
class Yields (P : α → Prop) (p : Reader α) : Prop where
  holds : ∀ {s : ReadState} {a : α} {s' : ReadState}, p s = .ok (a, s') → Tokens.Lexed s.rest →
    P a ∧ Tokens.Lexed s'.rest

/-! ### Putting readers together -/

theorem bind_eq_ok {p : Reader α} {f : α → Reader β} {s : ReadState} {b : β} {s' : ReadState}
    (h : (p >>= f) s = .ok (b, s')) : ∃ a t, p s = .ok (a, t) ∧ f a t = .ok (b, s') := by
  change (p s >>= fun x => f x.1 x.2) = _ at h
  cases hp : p s with
  | error e => rw [hp] at h; cases h
  | ok x => rw [hp] at h; exact ⟨x.1, x.2, rfl, h⟩

theorem bind_of_eq_ok {p : Reader α} {f : α → Reader β} {s t : ReadState} {a : α}
    (h : p s = .ok (a, t)) : (p >>= f) s = f a t := by
  change (p s >>= fun x => f x.1 x.2) = _
  rw [h]
  rfl

/-- A sequence of tokens that is read as one thing is read to its end. -/
theorem exists_of_run_eq_ok {p : Reader α} {tokens : List Token} {closing : Pos} {a : α}
    (h : p.run tokens closing = .ok a) :
    ∃ s, p ⟨tokens, closing, none⟩ = .ok (a, s) ∧ s.rest = [] ∧ s.leftover = none := by
  unfold run at h
  cases hp : p ⟨tokens, closing, none⟩ with
  | error e =>
    rw [StateT.run, hp] at h
    cases h
  | ok r =>
    rw [StateT.run, hp] at h
    dsimp only [bind, Except.bind] at h
    split at h
    · cases h
    · cases h
    next hleftover hrest => cases h; exact ⟨r.2, rfl, hrest, hleftover⟩

namespace Keeps

instance pure (a : α) : Keeps R (pure a : Reader α) where
  holds h hs := by cases h; exact hs

instance throw (e : SyntaxError) : Keeps R (throw e : Reader α) where
  holds h := by cases h

instance bindInst {p : Reader α} {f : α → Reader β} [hp : Keeps R p] [hf : ∀ a, Keeps R (f a)] :
    Keeps R (p >>= f) where
  holds h hs := by
    obtain ⟨a, t, hpa, hfa⟩ := bind_eq_ok h
    exact (hf a).holds hfa (hp.holds hpa hs)

theorem bind {p : Reader α} {f : α → Reader β} (hp : Keeps R p) (hf : ∀ a, Keeps R (f a)) :
    Keeps R (p >>= f) := inferInstance

instance bindOption {p : Reader (Option α)} {f : Option α → Reader β} [Keeps R p]
    [hnone : Keeps R (f none)] [hsome : ∀ a, Keeps R (f (some a))] : Keeps R (p >>= f) :=
  have : ∀ a, Keeps R (f a) := fun a => by cases a <;> infer_instance
  inferInstance

instance map {f : α → β} {p : Reader α} [Keeps R p] : Keeps R (f <$> p) :=
  inferInstanceAs (Keeps R (p >>= fun a => Pure.pure (f a)))

theorem ite {c : Prop} [Decidable c] {p q : Reader α} (hp : Keeps R p) (hq : Keeps R q) :
    Keeps R (if c then p else q) := by
  split <;> assumption

instance iteInst {c : Prop} [Decidable c] {p q : Reader α} [hp : Keeps R p] [hq : Keeps R q] :
    Keeps R (if c then p else q) := ite hp hq

instance foldlM {f : β → α → Reader β} {l : List α} {b : β} [∀ b a, Keeps R (f b a)] :
    Keeps R (l.foldlM f b) := by
  induction l generalizing b with
  | nil => exact inferInstanceAs (Keeps R (Pure.pure b : Reader β))
  | cons a l ih => rw [List.foldlM_cons]; infer_instance

instance forIn {f : α → β → Reader (ForInStep β)} {l : List α} {b : β} [∀ a b, Keeps R (f a b)] :
    Keeps R (forIn l b f) := by
  induction l generalizing b with
  | nil => exact inferInstanceAs (Keeps R (Pure.pure b : Reader β))
  | cons a l ih =>
    rw [List.forIn_cons]
    refine bind inferInstance fun step => ?_
    cases step <;> infer_instance

/-- Behind a loop that may end early the two ways out are apart. -/
instance bindLoop {p : Reader (Option α × β)} {f : Option α × β → Reader σ} [Keeps R p]
    [hnone : ∀ b, Keeps R (f (none, b))] [hsome : ∀ a b, Keeps R (f (some a, b))] :
    Keeps R (p >>= f) :=
  have : ∀ r, Keeps R (f r) := fun ⟨a, b⟩ => by cases a <;> infer_instance
  inferInstance

end Keeps

/-! ### Looking at the tokens -/

instance : Keeps R (get : Reader ReadState) where
  holds h hs := by cases h; exact hs

instance : Keeps R rest where
  holds h hs := by cases h; exact hs

/-- What is done with the tokens may rely on their being lexed. -/
theorem Keeps.rest_bind {f : List Token → Reader β} (hf : ∀ ts, Known R ts → Keeps R (f ts)) :
    Keeps R (rest >>= f) where
  holds {s _ _} h hs := by
    obtain ⟨a, t, hrest, hfa⟩ := bind_eq_ok h
    cases hrest
    exact (hf s.rest ⟨hs⟩).holds hfa hs

instance (ts : List Token) [hts : Known R ts] : Keeps R (setRest ts) where
  holds h _ := by cases h; exact hts.holds

instance : Keeps R atEnd := by unfold atEnd; infer_instance
instance (m : Mark) : Keeps R (sees m) := by unfold sees; infer_instance
instance (m : Mark) : Keeps R (seesSecond m) := by unfold seesSecond; infer_instance
instance (ms : List Mark) : Keeps R (seesSecondAny ms) := by unfold seesSecondAny; infer_instance
instance (m : Mark) : Keeps R (seesThird m) := by unfold seesThird; infer_instance
instance (ms : List Mark) : Keeps R (seesAny ms) := by unfold seesAny; infer_instance
instance (w : String) : Keeps R (seesWord w) := by unfold seesWord; infer_instance
instance (o : String) : Keeps R (seesOp o) := by unfold seesOp; infer_instance
instance : Keeps R here := by unfold here; infer_instance

/-! ### Faults -/

instance (pos : Pos) (text : String) : Keeps R (failAt pos text : Reader α) := by
  unfold failAt; infer_instance
instance (text : String) : Keeps R (fail text : Reader α) := by unfold fail; infer_instance
instance (what : List String) : Keeps R (expectedAll what : Reader α) := by
  unfold expectedAll; infer_instance
instance (ms : List Mark) : Keeps R (expected ms : Reader α) := by unfold expected; infer_instance

/-! ### Single tokens -/

variable [hR : Closed R]

instance (w : String) : Keeps R (word w) := by
  unfold word
  refine .rest_bind fun ts hts => ?_
  split
  next => have := hts.tail; infer_instance
  next => infer_instance

instance (w : String) : Keeps R (word? w) := by unfold word?; infer_instance

instance (o : String) : Keeps R (op o) := by
  unfold op
  have : Keeps R (rest >>= fun ts => setRest (ts.drop o.length)) :=
    .rest_bind fun ts hts => inferInstance
  infer_instance

instance (o : String) : Keeps R (op? o) := by unfold op?; infer_instance

instance : Keeps R ident := by
  unfold ident
  refine .rest_bind fun ts hts => ?_
  split
  next => have := hts.tail; infer_instance
  next => infer_instance

instance : Keeps R anyWord := by
  unfold anyWord
  refine .rest_bind fun ts hts => ?_
  split
  next => have := hts.tail; infer_instance
  next => infer_instance

instance : Keeps R ident? := by unfold ident?; infer_instance

instance : Keeps R lifetime := by
  unfold lifetime
  refine .rest_bind fun ts hts => ?_
  split
  next => have := hts.tail.tail; infer_instance
  next => infer_instance

instance : Keeps R lifetime? := by unfold lifetime?; infer_instance

instance : Keeps R literal := by
  unfold literal
  refine .rest_bind fun ts hts => ?_
  split
  next => have := hts.tail; infer_instance
  next => have := hts.tail; infer_instance
  next => have := hts.tail.tail; infer_instance
  next => infer_instance

instance : Keeps R stringLiteral := by
  unfold stringLiteral
  refine .rest_bind fun ts hts => ?_
  split
  next => have := hts.tail; infer_instance
  next => infer_instance

instance : Keeps R remaining := by
  unfold remaining
  refine .rest_bind fun ts hts => ?_
  have hnil : Known R (ts.drop ts.length) := inferInstance
  rw [List.drop_length] at hnil
  infer_instance

/-! ### Groups -/

instance : Keeps R anyGroup := by
  unfold anyGroup
  refine .rest_bind fun ts hts => ?_
  split
  next => have := hts.tail; infer_instance
  next => infer_instance

/-- Behind a group stands what stood behind it before. -/
theorem rest_of_inside {body after : List Token} {closing : Pos} {content : Reader α}
    {s s' : ReadState} {r : α × Option Token}
    (h : inside body closing after content s = .ok (r, s')) :
    (∃ t, content { s with rest := body, closing := closing } = .ok (r.1, t)) ∧
      s'.rest = after := by
  unfold inside at h
  obtain ⟨_, _, hget, h⟩ := bind_eq_ok h
  cases hget
  obtain ⟨_, _, hset, h⟩ := bind_eq_ok h
  cases hset
  obtain ⟨a, t, hcontent, h⟩ := bind_eq_ok h
  obtain ⟨_, _, hget, h⟩ := bind_eq_ok h
  cases hget
  obtain ⟨_, _, hset, h⟩ := bind_eq_ok h
  cases hset
  cases h
  exact ⟨⟨t, hcontent⟩, rfl⟩

instance (body after : List Token) (closing : Pos) (content : Reader α) [hafter : Known R after] :
    Keeps R (inside body closing after content) where
  holds h _ := (rest_of_inside h).2 ▸ hafter.holds

/-- To remember a token that is left over changes nothing in front of the reader. -/
instance (extra : Option (Pos × Delimiter)) :
    Keeps R (modify fun s => { s with leftover := s.leftover <|> extra } : Reader Unit) where
  holds h hs := by cases h; exact hs

theorem Keeps.groupWith {d : Delimiter} {content : Reader α} {behind : α → Reader β}
    (hbehind : ∀ a, Keeps R (behind a)) : Keeps R (groupWith d content behind) := by
  unfold Reader.groupWith
  refine .rest_bind fun ts hts => ?_
  split
  next => have := hts.tail; infer_instance
  next => infer_instance

instance (d : Delimiter) (content : Reader α) (behind : α → Reader β)
    [hbehind : ∀ a, Keeps R (behind a)] : Keeps R (groupWith d content behind) := .groupWith hbehind

instance (d : Delimiter) (content : Reader α) : Keeps R (group d content) := by
  unfold group; infer_instance

/-! ### Trying and repeating -/

instance (p : Reader α) : Keeps R (ahead p) := by
  unfold ahead
  refine .bind inferInstance fun s => ?_
  split <;> infer_instance

instance (p : Reader α) [hp : Keeps R p] : Keeps R (attempt p) where
  holds {s _ _} h hs := by
    unfold attempt at h
    obtain ⟨_, _, hget, h⟩ := bind_eq_ok h
    cases hget
    cases hrun : StateT.run p s with
    | error e =>
      rw [hrun] at h
      cases h
      exact hs
    | ok r =>
      rw [hrun] at h
      obtain ⟨_, _, hset, h⟩ := bind_eq_ok h
      cases hset
      cases h
      exact hp.holds hrun hs

instance (step : σ → Reader (Option σ)) (start : σ) [∀ x, Keeps R (step x)] :
    Keeps R (iterate step start) := by
  have hgo : ∀ n x, Keeps R (iterate.go step n x) := by
    intro n
    induction n with
    | zero => intro x; exact .pure x
    | succ n ih => intro x; unfold iterate.go; infer_instance
  unfold iterate
  infer_instance

instance (step : Reader (Option α)) [Keeps R step] : Keeps R (many step) := by
  unfold many; infer_instance
instance (item : Reader α) [Keeps R item] : Keeps R (manyToEnd item) := by
  unfold manyToEnd; infer_instance
instance (sep : String) (stop : Reader Bool) (item : Reader α) [Keeps R stop] [Keeps R item] :
    Keeps R (separated sep stop item) := by
  unfold separated; infer_instance
instance (item : Reader α) [Keeps R item] : Keeps R (commaList item) := by
  unfold commaList; infer_instance
instance (sep : String) (stop : Reader Bool) (item : Reader α) [Keeps R stop] [Keeps R item] :
    Keeps R (joined sep stop item) := by
  unfold joined; infer_instance

/-- A repetition ends at once if its step does. -/
theorem many_of_eq_none {step : Reader (Option α)} {s : ReadState} (h : step s = .ok (none, s)) :
    many step s = .ok ([], s) := by
  unfold many iterate
  rw [bind_of_eq_ok (a := []) (t := s)]
  · rfl
  · rw [bind_of_eq_ok (p := rest) rfl, iterate.go, bind_of_eq_ok (bind_of_eq_ok h)]
    rfl

/-! ### Results -/

namespace Yields

variable {P : α → Prop} {Q : β → Prop}

theorem keeps {p : Reader α} (h : Yields P p) : Keeps Tokens.Lexed p :=
  ⟨fun hp hs => (h.holds hp hs).2⟩

theorem of_keeps {p : Reader α} [hp : Keeps Tokens.Lexed p] : Yields (fun _ => True) p :=
  ⟨fun h hs => ⟨trivial, hp.holds h hs⟩⟩

theorem mono {P' : α → Prop} {p : Reader α} (h : Yields P p) (himp : ∀ a, P a → P' a) :
    Yields P' p :=
  ⟨fun hp hs => ⟨himp _ (h.holds hp hs).1, (h.holds hp hs).2⟩⟩

theorem pure {a : α} (h : P a) : Yields P (Pure.pure a : Reader α) where
  holds hp hs := by cases hp; exact ⟨h, hs⟩

instance throw (e : SyntaxError) : Yields P (throw e : Reader α) where
  holds h := by cases h

/-- The second reader may rely on the result of the first. -/
theorem bind {p : Reader α} {f : α → Reader β} (hp : Yields P p)
    (hf : ∀ a, P a → Yields Q (f a)) : Yields Q (p >>= f) where
  holds h hs := by
    obtain ⟨a, t, hpa, hfa⟩ := bind_eq_ok h
    obtain ⟨ha, ht⟩ := hp.holds hpa hs
    exact (hf a ha).holds hfa ht

/-- The result of the first reader does not matter. -/
instance bindInst {p : Reader α} {f : α → Reader β} [Keeps Tokens.Lexed p]
    [hf : ∀ a, Yields Q (f a)] : Yields Q (p >>= f) :=
  bind of_keeps fun a _ => hf a

instance bindOption {p : Reader (Option α)} {f : Option α → Reader β} [Keeps Tokens.Lexed p]
    [hnone : Yields Q (f none)] [hsome : ∀ a, Yields Q (f (some a))] : Yields Q (p >>= f) :=
  have : ∀ a, Yields Q (f a) := fun a => by cases a <;> infer_instance
  inferInstance

theorem map {f : α → β} {p : Reader α} (hp : Yields P p) (hf : ∀ a, P a → Q (f a)) :
    Yields Q (f <$> p) :=
  bind hp fun a ha => Yields.pure (hf a ha)

theorem ite {c : Prop} [Decidable c] {p q : Reader α} (hp : Yields P p) (hq : Yields P q) :
    Yields P (if c then p else q) := by
  split <;> assumption

instance iteInst {c : Prop} [Decidable c] {p q : Reader α} [hp : Yields P p] [hq : Yields P q] :
    Yields P (if c then p else q) := ite hp hq

theorem rest_bind {f : List Token → Reader α} (hf : ∀ ts, Known Tokens.Lexed ts → Yields P (f ts)) :
    Yields P (rest >>= f) where
  holds {s _ _} h hs := by
    obtain ⟨a, t, hrest, hfa⟩ := bind_eq_ok h
    cases hrest
    exact (hf s.rest ⟨hs⟩).holds hfa hs

instance (text : String) : Yields P (fail text : Reader α) := by unfold fail; infer_instance
instance (pos : Pos) (text : String) : Yields P (failAt pos text : Reader α) := by
  unfold failAt; infer_instance
instance (what : List String) : Yields P (expectedAll what : Reader α) := by
  unfold expectedAll; infer_instance
instance (ms : List Mark) : Yields P (expected ms : Reader α) := by
  unfold expected; infer_instance

/-- The content of a group is read from tokens of the group; what it leaves does not matter. -/
theorem groupWith {d : Delimiter} {content : Reader α} {behind : α → Reader β}
    (hcontent : ∀ {s : ReadState} {a : α} {s' : ReadState}, content s = .ok (a, s') →
      Tokens.Lexed s.rest → P a)
    (hbehind : ∀ a, P a → Yields Q (behind a)) : Yields Q (groupWith d content behind) := by
  unfold Reader.groupWith
  refine rest_bind fun ts hts => ?_
  split
  next d' body opening closing after =>
    have hinside : Yields (fun r => P r.1) (inside body closing after content) := ⟨fun h _ => by
      obtain ⟨⟨t, hrun⟩, hrest⟩ := rest_of_inside h
      exact ⟨hcontent hrun hts.holds.1, hrest ▸ hts.holds.2⟩⟩
    have hread : Yields Q (inside body closing after content >>= fun r => do
        let b ← behind r.1
        modify fun s => { s with leftover := s.leftover <|> r.2.map fun t => (t.pos, d) }
        return b) :=
      bind hinside fun r hr => bind (hbehind r.1 hr) fun b hb =>
        bind of_keeps fun _ _ => Yields.pure hb
    split
    · exact hread
    · infer_instance
  next => infer_instance

instance (d : Delimiter) (content : Reader α) (behind : α → Reader β)
    [hbehind : ∀ a, Yields Q (behind a)] : Yields Q (Reader.groupWith d content behind) :=
  groupWith (P := fun _ => True) (fun _ _ => trivial) fun a _ => hbehind a

theorem group {d : Delimiter} {content : Reader α} (h : Yields P content) :
    Yields P (group d content) :=
  groupWith (fun hrun hs => (h.holds hrun hs).1) fun _ ha => Yields.pure ha

/-- What a repetition preserves holds at its end. -/
theorem iterate {I : σ → Prop} {step : σ → Reader (Option σ)} {start : σ} (hstart : I start)
    (hstep : ∀ x, I x → Yields (fun r => ∀ y ∈ r, I y) (step x)) :
    Yields I (iterate step start) := by
  have hgo : ∀ n x, I x → Yields I (iterate.go step n x) := by
    intro n
    induction n with
    | zero => intro x hx; exact Yields.pure hx
    | succ n ih =>
      intro x hx
      unfold iterate.go
      refine bind (hstep x hx) fun r hr => ?_
      cases r with
      | none => exact Yields.pure hx
      | some y => exact ih y (hr y rfl)
  unfold Reader.iterate
  exact bind of_keeps fun ts _ => hgo _ _ hstart

theorem many {step : Reader (Option α)} (h : Yields (fun r => ∀ a ∈ r, P a) step) :
    Yields (fun l => ∀ a ∈ l, P a) (many step) := by
  unfold Reader.many
  refine bind (P := fun l => ∀ a ∈ l, P a) (iterate (by simp) fun acc hacc => ?_) fun l hl =>
    Yields.pure (by simpa using hl)
  refine bind h fun r hr => ?_
  cases r with
  | none => exact Yields.pure (by simp)
  | some a => exact Yields.pure (by simpa using ⟨hr a rfl, hacc⟩)

theorem manyToEnd {item : Reader α} (h : Yields P item) :
    Yields (fun l => ∀ a ∈ l, P a) (manyToEnd item) := by
  refine many (bind of_keeps fun e _ => ?_)
  have hsome : Yields (fun r => ∀ a ∈ r, P a) (some <$> item) := map h (by simp)
  have hnone : Yields (fun r => ∀ a ∈ r, P a) (Pure.pure none : Reader (Option α)) :=
    Yields.pure (by simp)
  infer_instance

theorem joined {sep : String} {stop : Reader Bool} {item : Reader α} [Keeps Tokens.Lexed stop]
    (h : Yields P item) : Yields (fun r => ∀ a ∈ r.1, P a) (joined sep stop item) := by
  unfold Reader.joined
  refine bind (P := fun r : List α × Bool × Bool => ∀ a ∈ r.1, P a) ?_ fun r hr =>
    Yields.pure (by simpa using hr)
  refine iterate (by simp) fun x hx => ?_
  obtain ⟨acc, _, go⟩ := x
  refine ite (Yields.pure (by simp)) (bind of_keeps fun stops _ => ?_)
  refine ite (Yields.pure (by simp)) (bind h fun a ha => bind of_keeps fun goesOn _ => ?_)
  have hlonger : ∀ x ∈ a :: acc, P x := by simpa using ⟨ha, hx⟩
  exact ite (Yields.pure (by simpa using hlonger)) (Yields.pure (by simpa using hlonger))

end Yields

/-! ### Results and what is left -/

/-- From tokens with the one property the reader gives a result and leaves tokens that have the
other together. -/
structure Leads (R : List Token → Prop) (Q : α → List Token → Prop) (p : Reader α) : Prop where
  holds : ∀ {s : ReadState} {a : α} {s' : ReadState}, p s = .ok (a, s') → R s.rest → Q a s'.rest

namespace Leads

variable {R : List Token → Prop} {Q : α → List Token → Prop} {Q' : β → List Token → Prop}

theorem of_keeps {p : Reader α} [h : Keeps R p] : Leads R (fun _ => R) p := ⟨h.holds⟩

/-- What holds without the tokens is kept. -/
theorem const {P : Prop} {p : Reader α} : Leads (fun _ => P) (fun _ _ => P) p := ⟨fun _ h => h⟩

theorem pure {a : α} (h : ∀ ts, R ts → Q a ts) : Leads R Q (Pure.pure a : Reader α) where
  holds hp hs := by cases hp; exact h _ hs

theorem fails {p : Reader α} {e : ReadState → SyntaxError} (h : ∀ s, p s = .error (e s)) :
    Leads R Q p where
  holds {s _ _} hp := by
    rw [h s] at hp
    cases hp

theorem bind {p : Reader α} {f : α → Reader β} (hp : Leads R Q p)
    (hf : ∀ a, Leads (Q a) Q' (f a)) : Leads R Q' (p >>= f) where
  holds h hs := by
    obtain ⟨a, t, hpa, hfa⟩ := bind_eq_ok h
    exact (hf a).holds hfa (hp.holds hpa hs)

theorem mono {S : List Token → Prop} {p : Reader α} (h : Leads R Q p) (hS : ∀ ts, S ts → R ts) :
    Leads S Q p := ⟨fun hp hs => h.holds hp (hS _ hs)⟩

/-- The first reader keeps to its tokens. -/
theorem keep {p : Reader α} {f : α → Reader β} [Keeps R p] (hf : ∀ a, Leads R Q' (f a)) :
    Leads R Q' (p >>= f) := bind of_keeps hf

theorem ite {c : Prop} [Decidable c] {p q : Reader α} (hp : Leads R Q p) (hq : Leads R Q q) :
    Leads R Q (if c then p else q) := by
  split <;> assumption

theorem rest_bind {f : List Token → Reader α} (hf : ∀ ts, R ts → Leads (· = ts) Q (f ts)) :
    Leads R Q (rest >>= f) where
  holds {s _ _} h hs := by
    obtain ⟨ts, t, hrest, hfts⟩ := bind_eq_ok h
    cases hrest
    exact (hf s.rest hs).holds hfts rfl

/-- The content of a group is read from its body, and behind the group stands what stood there
before. -/
theorem group {d : Delimiter} {content : Reader α}
    (h : ∀ {body after : List Token} {opening closing : Pos},
      R (.group d body opening closing :: after) →
        Leads (· = body) (fun a _ => Q a after) content) :
    Leads R Q (group d content) := by
  unfold Reader.group groupWith
  refine rest_bind fun ts hts => ?_
  split
  next d' body opening closing after =>
    split
    next hd =>
      subst hd
      refine bind (Q := fun r ts => Q r.1 after ∧ ts = after) ⟨fun hinside _ => ?_⟩ fun r => ?_
      · obtain ⟨⟨t, hcontent⟩, hafter⟩ := rest_of_inside hinside
        exact ⟨(h hts).holds hcontent rfl, hafter⟩
      · exact ⟨fun hp hs => by cases hp; exact hs.2 ▸ hs.1⟩
    next => exact fails fun _ => rfl
  next => exact fails fun _ => rfl

/-- What a repetition preserves holds at its end. -/
theorem iterate {I : σ → List Token → Prop} {step : σ → Reader (Option σ)} {start : σ}
    (hstep : ∀ x, Leads (I x) (fun r => I (r.getD x)) (step x)) :
    Leads (I start) I (iterate step start) := by
  have hgo : ∀ n x, Leads (I x) I (iterate.go step n x) := by
    intro n
    induction n with
    | zero => intro x; exact pure fun _ h => h
    | succ n ih =>
      intro x
      unfold iterate.go
      refine bind (hstep x) fun r => ?_
      cases r with
      | none => exact pure fun _ h => h
      | some y => exact ih y
  unfold Reader.iterate
  exact keep fun ts => hgo _ _

theorem atEnd : Leads R (fun e ts => R ts ∧ (e = false → ts ≠ [])) atEnd := by
  unfold Reader.atEnd
  refine rest_bind fun ts hts => pure fun ts' h => ?_
  subst h
  exact ⟨hts, by simp⟩

/-- Each item is read from tokens with the property up to such tokens. -/
theorem manyToEnd {P : α → Prop} {item : Reader α}
    (h : Leads (fun ts => R ts ∧ ts ≠ []) (fun a ts => P a ∧ R ts) item) :
    Leads R (fun l _ => ∀ a ∈ l, P a) (manyToEnd item) := by
  have hitem : Leads R (fun r ts => (∀ a ∈ r, P a) ∧ R ts)
      (do if ← Reader.atEnd then return none else some <$> item) := by
    refine bind atEnd fun e => ?_
    cases e with
    | true => exact pure fun ts hts => ⟨by simp, hts.1⟩
    | false =>
      have hread := h.mono (S := fun ts => R ts ∧ (false = false → ts ≠ []))
        (fun _ hts => ⟨hts.1, hts.2 rfl⟩)
      exact bind hread fun a => pure fun ts ha => ⟨by simpa using ha.1, ha.2⟩
  unfold Reader.manyToEnd many
  let I (acc : List α) (ts : List Token) := (∀ a ∈ acc, P a) ∧ R ts
  refine bind (Q := I) ((iterate (I := I) fun acc => ?_).mono fun _ hts => ⟨by simp, hts⟩)
    fun l => pure fun _ hl => by simpa using hl.1
  refine bind (Q := fun r ts => ((∀ a ∈ r, P a) ∧ R ts) ∧ ∀ a ∈ acc, P a) ?_ fun r => ?_
  · exact ⟨fun hp hs => ⟨hitem.holds hp hs.2, hs.1⟩⟩
  · cases r with
    | none => exact pure fun ts h => ⟨h.2, h.1.2⟩
    | some a => exact pure fun ts h => ⟨by simpa using ⟨h.1.1 a rfl, h.2⟩, h.1.2⟩

end Leads

end Reader

end PatternFactory
