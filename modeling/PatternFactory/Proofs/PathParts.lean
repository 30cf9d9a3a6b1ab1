import Mathlib.Data.List.Induction
import PatternFactory.Generation.Files

/-!
# The parts of path names

The parts of a path name are its pieces that count.  Joining a name adds it to them
(`PathName.parts_join`) and to the components (`PathName.components_join`), and going to the parent
drops the last (`PathName.exists_parent`).  A parent is a beginning of the text, so that it is short
enough if the path name is.

The last piece of a parent always counts, unless the parent is empty or a lone `.`: that is what
`PathName.Tidy` says.
-/

namespace PatternFactory

namespace PathName

/-! ### Pieces -/

theorem pieces_eq_splitOn (cs : List Char) :
    pieces cs = (cs.splitOn '/').map String.ofList := by
  induction cs with
  | nil => rfl
  | cons c cs ih =>
    rw [List.splitOn_cons_eq_if_modifyHead]
    by_cases hc : c = '/'
    · subst hc
      simp [pieces, ih]
    · obtain ⟨w, ws, hw⟩ := List.exists_cons_of_ne_nil (List.splitOn_ne_nil '/' cs)
      rw [hw] at ih ⊢
      have hne : ¬ (c == '/') = true := by simpa using hc
      rw [if_neg hne, pieces, ih]
      · simp [String.ofList_cons]
      · exact hc

theorem pieces_append (as bs : List Char) : pieces (as ++ '/' :: bs) = pieces as ++ pieces bs := by
  simp only [pieces_eq_splitOn, List.splitOn_append_cons_self, List.map_append]

theorem pieces_of_notMem {cs : List Char} (h : '/' ∉ cs) : pieces cs = [String.ofList cs] := by
  rw [pieces_eq_splitOn, List.splitOn_eq_singleton h]
  rfl

theorem pieces_ne_nil (cs : List Char) : pieces cs ≠ [] := by
  simp [pieces_eq_splitOn, List.splitOn_ne_nil]

theorem intercalate_pieces (cs : List Char) : "/".intercalate (pieces cs) = String.ofList cs := by
  rw [← String.toList_inj, String.toList_intercalate, pieces_eq_splitOn, String.toList_ofList]
  simp [Function.comp_def, List.intercalate_splitOn]

theorem pieces_intercalate {ps : List String} (hne : ps ≠ []) (h : ∀ p ∈ ps, '/' ∉ p.toList) :
    pieces ("/".intercalate ps).toList = ps := by
  have hsplit : (['/'].intercalate (ps.map String.toList)).splitOn '/' = ps.map String.toList :=
    List.splitOn_intercalate '/' (by simpa using h) (by simpa using hne)
  rw [pieces_eq_splitOn, String.toList_intercalate]
  simp [hsplit, Function.comp_def]

theorem notMem_of_mem_pieces {cs : List Char} {p : String} (h : p ∈ pieces cs) :
    '/' ∉ p.toList := by
  induction cs using pieces.induct generalizing p with
  | case1 =>
    obtain rfl := List.mem_singleton.1 h
    simp
  | case2 cs ih =>
    rcases List.mem_cons.1 h with rfl | h
    · simp
    · exact ih h
  | case3 c cs hc q qs hq ih =>
    rw [pieces, hq] at h
    · rcases List.mem_cons.1 h with rfl | h
      · have := ih (hq ▸ List.mem_cons_self)
        simp [this, Ne.symm hc]
      · exact ih (hq ▸ List.mem_cons_of_mem _ h)
    · exact hc
  | case4 c cs hc hq => exact absurd hq (pieces_ne_nil cs)

/-! ### Pieces that count -/

theorem isPart_iff {piece : String} : isPart piece = true ↔ piece ≠ "" ∧ piece ≠ "." := by
  rw [isPart, ofPiece?]
  split_ifs <;> simp_all [← not_or]

@[simp] theorem isPart_empty : isPart "" = false := rfl

@[simp] theorem isPart_dot : isPart "." = false := rfl

/-- The pieces that count. -/
def parts (p : PathName) : List String := (pieces p.text.toList).filter isPart

theorem isPart_of_mem_parts (p : PathName) : ∀ part ∈ p.parts, isPart part = true := fun _ h =>
  (List.mem_filter.1 h).2

theorem trimmed_append {ps : List String} {last : String} (h : isPart last = true) :
    trimmed (ps ++ [last]) = ps ++ [last] := by
  simp [trimmed, h]

theorem trimmed_append_of_not {ps : List String} {last : String} (h : isPart last = false) :
    trimmed (ps ++ [last]) = trimmed ps := by
  simp [trimmed, h]

theorem filter_trimmed (ps : List String) : (trimmed ps).filter isPart = ps.filter isPart := by
  induction ps using List.reverseRecOn with
  | nil => rfl
  | append_singleton ps last ih =>
    cases h : isPart last with
    | true => rw [trimmed_append h]
    | false => simp [trimmed_append_of_not h, ih, h]

theorem isPrefix_trimmed (ps : List String) : trimmed ps <+: ps := by
  have h := List.dropWhile_suffix (l := ps.reverse) fun p => !isPart p
  simpa [trimmed] using List.reverse_prefix.2 h

theorem trimmed_cases (ps : List String) :
    trimmed ps = [] ∨ ∃ before last, trimmed ps = before ++ [last] ∧ isPart last = true := by
  induction ps using List.reverseRecOn with
  | nil => exact .inl rfl
  | append_singleton ps last ih =>
    cases h : isPart last with
    | true => exact .inr ⟨ps, last, trimmed_append h, h⟩
    | false => rwa [trimmed_append_of_not h]

/-! ### Parents -/

/-- The last piece counts, or there is none that does and nothing superfluous either. -/
inductive Tidy (p : PathName) : Prop
  | bare (h : p.text = "" ∨ p.text = ".")
  | ends {before last} (h : pieces p.text.toList = before ++ [last]) (hlast : isPart last = true)

theorem parts_of_pieces {p : PathName} {before : List String} {last : String}
    (h : pieces p.text.toList = before ++ [last]) (hlast : isPart last = true) :
    p.parts = before.filter isPart ++ [last] := by
  simp [parts, h, hlast]

theorem parts_of_bare {p : PathName} (h : p.text = "" ∨ p.text = ".") : p.parts = [] := by
  rcases h with h | h <;> simp [parts, h, pieces, isPart, ofPiece?]

theorem startsWith_slash_iff {s : String} : s.startsWith "/" = true ↔ ['/'] <+: s.toList := by
  rw [String.startsWith_string_iff]
  rfl

theorem endsWith_slash_iff {s : String} : s.endsWith "/" = true ↔ ['/'] <:+ s.toList := by
  rw [String.endsWith_eq_endsWith_toSlice, String.Slice.endsWith_string_iff, String.copy_toSlice]
  rfl

theorem not_prefix_of_relative {p : PathName} (h : p.isAbsolute = false) :
    ¬ ['/'] <+: p.text.toList := by
  rw [← startsWith_slash_iff, ← isAbsolute, h]
  exact Bool.false_ne_true

/-- What is left of pieces without the last, when they are put together again. -/
theorem tidy_intercalate_trimmed {ps : List String} (h : ∀ p ∈ ps, '/' ∉ p.toList) :
    Tidy ⟨"/".intercalate (trimmed ps)⟩ ∧
      parts ⟨"/".intercalate (trimmed ps)⟩ = ps.filter isPart := by
  have hslash : ∀ p ∈ trimmed ps, '/' ∉ p.toList := fun p hp =>
    h p ((isPrefix_trimmed ps).mem hp)
  rw [← filter_trimmed ps]
  rcases trimmed_cases ps with hnil | ⟨before, last, heq, hlast⟩
  · rw [hnil]
    exact ⟨.bare (.inl rfl), parts_of_bare (.inl rfl)⟩
  · have hne : trimmed ps ≠ [] := by simp [heq]
    have hpieces := pieces_intercalate hne hslash
    refine ⟨.ends (hpieces.trans heq) hlast, ?_⟩
    rw [parts, hpieces]

theorem isPrefix_intercalate {ps qs : List String} (h : qs <+: ps) :
    ("/".intercalate qs).toList <+: ("/".intercalate ps).toList := by
  obtain ⟨rest, rfl⟩ := h
  by_cases hq : qs = []
  · subst hq
    exact List.nil_prefix
  by_cases hrest : rest = []
  · subst hrest
    simp only [List.append_nil, List.prefix_refl]
  · rw [String.intercalate_append_of_ne_nil hq hrest, String.append_assoc, String.toList_append]
    exact List.prefix_append _ _

theorem isPrefix_of_pieces {ps qs : List String} {cs : List Char} (h : pieces cs = ps)
    (hq : qs <+: ps) : ("/".intercalate qs).toList <+: cs := by
  have hcs : cs = ("/".intercalate ps).toList := by
    rw [← h, intercalate_pieces, String.toList_ofList]
  exact hcs ▸ isPrefix_intercalate hq

/-- The same behind a `.` at the beginning. -/
theorem tidy_dot_intercalate_trimmed {ps : List String} (h : ∀ p ∈ ps, '/' ∉ p.toList) :
    Tidy ⟨"." ++ "/".intercalate (trimmed ("" :: ps))⟩ ∧
      parts ⟨"." ++ "/".intercalate (trimmed ("" :: ps))⟩ = ps.filter isPart ∧
      ∀ cs rest, pieces rest = ps ++ cs → ("." ++ "/".intercalate (trimmed ("" :: ps))).toList <+:
        '.' :: '/' :: rest := by
  have hfilter : (trimmed ("" :: ps)).filter isPart = ps.filter isPart := filter_trimmed _
  rcases trimmed_cases ("" :: ps) with hnil | ⟨front, last, heq, hlast⟩
  · rw [hnil] at hfilter ⊢
    exact ⟨.bare (.inr rfl), (parts_of_bare (.inr rfl)).trans hfilter, fun _ _ _ => ⟨_, rfl⟩⟩
  · have hprefix := isPrefix_trimmed ("" :: ps)
    rw [heq] at hfilter hprefix ⊢
    cases front with
    | nil =>
      -- the first piece is empty and does not count
      obtain ⟨rfl, -⟩ := List.cons_prefix_cons.1 hprefix
      cases hlast
    | cons first front =>
      obtain ⟨hfirst, hbehind⟩ := List.cons_prefix_cons.1 hprefix
      subst hfirst
      have htext : ("." ++ "/".intercalate (("" :: front) ++ [last])).toList =
          ['.'] ++ '/' :: ("/".intercalate (front ++ [last])).toList := by
        rw [List.cons_append, String.intercalate_cons_of_ne_nil (by simp)]
        simp
      have hslash : ∀ p ∈ front ++ [last], '/' ∉ p.toList := fun p hp => h p (hbehind.mem hp)
      have hpieces : pieces ("." ++ "/".intercalate (("" :: front) ++ [last])).toList =
          ("." :: front) ++ [last] := by
        rw [htext, pieces_append, pieces_intercalate (by simp) hslash]
        rfl
      refine ⟨.ends hpieces hlast, ?_, fun cs rest hrest => ?_⟩
      · rw [parts_of_pieces hpieces hlast, ← hfilter, List.filter_append]
        simp [hlast]
      · rw [htext]
        exact List.cons_prefix_cons.2 ⟨rfl, List.cons_prefix_cons.2 ⟨rfl,
          isPrefix_of_pieces hrest (hbehind.trans (List.prefix_append _ _))⟩⟩

/-- What a path name that is not absolute begins with, if its last piece counts. -/
theorem lead_cases {cs : List Char} {before : List String} {last : String} (hcs : ¬ ['/'] <+: cs)
    (h : pieces cs = before ++ [last]) (hlast : isPart last = true) :
    lead cs = ([], cs) ∨ ∃ rest behind, cs = '.' :: '/' :: rest ∧
      lead cs = ([.here], '/' :: rest) ∧ before = "." :: behind ∧
      pieces rest = behind ++ [last] := by
  unfold lead
  split
  · exact absurd ⟨_, rfl⟩ hcs
  · -- a lone `.` does not count
    have hdot : "." = last := by simpa [pieces] using congrArg List.getLast? h
    subst hdot
    cases hlast
  · next rest =>
    have hpieces : "." :: pieces rest = before ++ [last] := (pieces_append ['.'] rest).symm.trans h
    cases before with
    | nil => exact absurd (List.cons.inj hpieces).2 (pieces_ne_nil rest)
    | cons _ behind =>
      obtain ⟨rfl, hrest⟩ := List.cons.inj hpieces
      exact .inr ⟨rest, behind, rfl, rfl, rfl, hrest⟩
  · exact .inl rfl

/-- **The parent** of a path name whose last piece counts: a beginning of its text without the last
part. -/
theorem exists_parent {p : PathName} {before : List String} {last : String}
    (hp : p.isAbsolute = false) (h : pieces p.text.toList = before ++ [last])
    (hlast : isPart last = true) :
    ∃ q, p.parent? = some q ∧ q.Tidy ∧ q.parts = before.filter isPart ∧
      q.text.toList <+: p.text.toList := by
  have hslash : ∀ q ∈ before, '/' ∉ q.toList := fun q hq =>
    notMem_of_mem_pieces (h ▸ List.mem_append_left _ hq)
  rcases lead_cases (not_prefix_of_relative hp) h hlast with
    hlead | ⟨rest, behind, hdot, hlead, rfl, hrest⟩
  · obtain ⟨htidy, hparts⟩ := tidy_intercalate_trimmed hslash
    refine ⟨_, ?_, htidy, hparts,
      isPrefix_of_pieces h ((isPrefix_trimmed before).trans (List.prefix_append _ _))⟩
    simp [parent?, hlead, h, trimmed_append hlast]
  · have hbody : pieces ('/' :: rest) = ("" :: behind) ++ [last] := by
      rw [pieces, hrest]
      rfl
    obtain ⟨htidy, hparts, hprefix⟩ :=
      tidy_dot_intercalate_trimmed (List.forall_mem_cons.1 hslash).2
    refine ⟨_, ?_, htidy, hparts, hdot ▸ hprefix _ rest hrest⟩
    simp only [parent?, hlead, hbody, trimmed_append hlast]
    simp [PathPart.text, String.join]

/-! ### Joining -/

/-- A text that is a piece of its own and counts. -/
structure IsName (name : String) : Prop where
  isPart : isPart name = true
  noSlash : '/' ∉ name.toList

instance : DecidablePred IsName := fun name =>
  decidable_of_iff (isPart name = true ∧ '/' ∉ name.toList)
    ⟨fun h => ⟨h.1, h.2⟩, fun h => ⟨h.isPart, h.noSlash⟩⟩

theorem append_ne_of_length {name ending text : String} (h : text.length < ending.length) :
    name ++ ending ≠ text := by
  rintro rfl
  rw [String.length_append] at h
  omega

theorem isName_append {name ending : String} (hname : '/' ∉ name.toList)
    (hending : '/' ∉ ending.toList) (hlength : 1 < ending.length) : IsName (name ++ ending) := by
  refine ⟨isPart_iff.2 ⟨append_ne_of_length ?_, append_ne_of_length ?_⟩, by simp [hname, hending]⟩
  · exact Nat.zero_lt_of_lt hlength
  · exact hlength

/-- What stands before a name that is joined to a path name. -/
def front (p : PathName) : String :=
  if p.text.isEmpty || p.text.endsWith "/" then p.text else p.text ++ "/"

theorem IsName.startsWith_slash {name : String} (h : IsName name) :
    name.startsWith "/" = false := by
  rw [← Bool.not_eq_true, startsWith_slash_iff]
  rintro ⟨rest, hrest⟩
  exact h.noSlash (hrest ▸ List.mem_cons_self)

theorem join_eq {name : String} (h : IsName name) (p : PathName) :
    p.join name = ⟨p.front ++ name⟩ := by
  rw [join, h.startsWith_slash, front]
  split_ifs <;> simp_all

theorem front_cases (p : PathName) : (p.front = "" ∧ p.text = "") ∨
    ∃ cs, p.front.toList = cs ++ ['/'] ∧ (p.text.toList = cs ∨ p.text.toList = cs ++ ['/']) := by
  rw [front]
  cases hempty : p.text.isEmpty with
  | true =>
    have htext := String.isEmpty_iff.1 hempty
    exact .inl ⟨by simpa using htext, htext⟩
  | false =>
    cases hend : p.text.endsWith "/" with
    | true =>
      obtain ⟨cs, hcs⟩ := endsWith_slash_iff.1 hend
      exact .inr ⟨cs, by simpa using hcs.symm, .inr hcs.symm⟩
    | false => exact .inr ⟨p.text.toList, by simp, .inl rfl⟩

/-- Joining a name adds a piece behind those of the path name, and drops none that counts. -/
theorem exists_pieces_join {name : String} (h : IsName name) (p : PathName) :
    ∃ before, pieces (p.join name).text.toList = before ++ [name] ∧
      before.filter PathName.isPart = p.parts := by
  rw [join_eq h, String.toList_append]
  rcases p.front_cases with ⟨hfront, htext⟩ | ⟨cs, hfront, htext⟩
  · refine ⟨[], ?_, (parts_of_bare (.inl htext)).symm⟩
    rw [hfront, String.toList_empty, List.nil_append, pieces_of_notMem h.noSlash,
      String.ofList_toList]
    rfl
  · refine ⟨pieces cs, ?_, ?_⟩
    · rw [hfront, List.append_assoc, List.singleton_append, pieces_append,
        pieces_of_notMem h.noSlash, String.ofList_toList]
    · rcases htext with htext | htext
      · rw [parts, htext]
      · rw [parts, htext, pieces_append, List.filter_append]
        simp [pieces]

theorem parts_join {name : String} (h : IsName name) (p : PathName) :
    (p.join name).parts = p.parts ++ [name] := by
  obtain ⟨before, hpieces, hbefore⟩ := exists_pieces_join h p
  rw [parts_of_pieces hpieces h.isPart, hbefore]

theorem parts_joinAll {names : List String} (h : ∀ name ∈ names, IsName name) (p : PathName) :
    (p.joinAll names).parts = p.parts ++ names := by
  induction names generalizing p with
  | nil => simp [joinAll]
  | cons name names ih =>
    obtain ⟨hname, hnames⟩ := List.forall_mem_cons.1 h
    rw [joinAll, List.foldl_cons]
    refine (ih hnames (p.join name)).trans ?_
    rw [parts_join hname, List.append_assoc]
    rfl

theorem relative_join {p : PathName} {name : String} (h : IsName name)
    (hp : p.isAbsolute = false) : (p.join name).isAbsolute = false := by
  have hrelative := not_prefix_of_relative hp
  rw [join_eq h, isAbsolute, ← Bool.not_eq_true, startsWith_slash_iff, String.toList_append, front]
  cases hcs : p.text.toList with
  | nil =>
    have htext : p.text = "" := String.toList_eq_nil_iff.1 hcs
    have hname := h.startsWith_slash
    rw [← Bool.not_eq_true, startsWith_slash_iff] at hname
    simpa [htext] using hname
  | cons c cs =>
    rw [hcs] at hrelative
    have hc : '/' ≠ c := fun hc => hrelative (hc ▸ ⟨cs, rfl⟩)
    split_ifs <;> simp [hcs, hc]

theorem notMem_join {p : PathName} {name : String} {c : Char} (h : IsName name) (hc : c ≠ '/')
    (hp : c ∉ p.text.toList) (hname : c ∉ name.toList) : c ∉ (p.join name).text.toList := by
  rw [join_eq h, String.toList_append]
  rcases p.front_cases with ⟨hfront, -⟩ | ⟨cs, hfront, htext | htext⟩ <;> simp_all

theorem relative_joinAll {p : PathName} {names : List String} (h : ∀ name ∈ names, IsName name)
    (hp : p.isAbsolute = false) : (p.joinAll names).isAbsolute = false := by
  induction names generalizing p with
  | nil => exact hp
  | cons name names ih =>
    obtain ⟨hname, hnames⟩ := List.forall_mem_cons.1 h
    exact ih hnames (relative_join hname hp)

theorem notMem_joinAll {p : PathName} {names : List String} {c : Char}
    (h : ∀ name ∈ names, IsName name) (hc : c ≠ '/') (hp : c ∉ p.text.toList)
    (hnames : ∀ name ∈ names, c ∉ name.toList) : c ∉ (p.joinAll names).text.toList := by
  induction names generalizing p with
  | nil => exact hp
  | cons name names ih =>
    obtain ⟨hname, hrest⟩ := List.forall_mem_cons.1 h
    obtain ⟨hcname, hcrest⟩ := List.forall_mem_cons.1 hnames
    exact ih hrest (notMem_join hname hc hp hcname) hcrest

theorem joinAll_append (p : PathName) (names : List String) (name : String) :
    p.joinAll (names ++ [name]) = (p.joinAll names).join name := by
  rw [joinAll, List.foldl_append]
  rfl

/-! ### Components -/

theorem ofPiece?_of_isPart {piece : String} (h : isPart piece = true) (hne : piece ≠ "..") :
    ofPiece? piece = some (.name piece) := by
  obtain ⟨hempty, hdot⟩ := isPart_iff.1 h
  simp [ofPiece?, hempty, hdot, hne]

/-- What is put behind a text stands behind its body, if it does not turn a lone `.` into
something else. -/
theorem lead_append {cs behind : List Char} (hcs : cs ≠ [])
    (hdot : cs = ['.'] → ['/'] <+: behind) :
    lead (cs ++ behind) = ((lead cs).1, (lead cs).2 ++ behind) := by
  fun_cases lead cs with
  | case1 rest => rfl
  | case2 =>
    obtain ⟨rest, rfl⟩ := hdot rfl
    rfl
  | case3 rest => rfl
  | case4 cs hslash hlone hhere =>
    obtain ⟨c, cs, rfl⟩ := List.exists_cons_of_ne_nil hcs
    unfold lead
    split
    next h => exact absurd (congrArg (· :: cs) (List.cons.inj h).1) (hslash cs)
    next h =>
      obtain ⟨rfl, hnil⟩ := List.cons.inj h
      exact absurd (congrArg ('.' :: ·) (List.append_eq_nil_iff.1 hnil).1) hlone
    next rest h =>
      obtain ⟨rfl, hbehind⟩ := List.cons.inj h
      cases cs with
      | nil => exact absurd rfl hlone
      | cons d cs => exact absurd (congrArg ('.' :: · :: cs) (List.cons.inj hbehind).1) (hhere cs)
    next => rfl

/-- The components that a name adds behind a body. -/
theorem filterMap_pieces_append {body : List Char} {name : String} (h : IsName name)
    (hne : name ≠ "..") (hbody : body = [] ∨ ['/'] <:+ body) :
    (pieces (body ++ name.toList)).filterMap ofPiece? =
      (pieces body).filterMap ofPiece? ++ [.name name] := by
  have hname : (pieces name.toList).filterMap ofPiece? = [.name name] := by
    simp [pieces_of_notMem h.noSlash, ofPiece?_of_isPart h.isPart hne]
  have hempty : (pieces []).filterMap ofPiece? = [] := rfl
  rcases hbody with rfl | ⟨before, rfl⟩
  · exact hname
  · rw [List.append_assoc, List.singleton_append, pieces_append, pieces_append]
    simp only [List.filterMap_append, hname, hempty, List.append_nil]

/-- A body that a slash is put behind has the same components. -/
theorem filterMap_pieces_slash (body : List Char) :
    (pieces (body ++ ['/'])).filterMap ofPiece? = (pieces body).filterMap ofPiece? := by
  have hempty : (pieces []).filterMap ofPiece? = [] := rfl
  rw [pieces_append, List.filterMap_append, hempty, List.append_nil]

theorem body_of_suffix {cs : List Char} (h : ['/'] <:+ cs) :
    (lead cs).2 = [] ∨ ['/'] <:+ (lead cs).2 := by
  fun_cases lead cs with
  | case1 rest =>
    rcases List.suffix_cons_iff.1 h with h | h
    · exact .inl (List.cons.inj h).2.symm
    · exact .inr h
  | case2 => exact absurd h (by decide)
  | case3 rest =>
    rcases List.suffix_cons_iff.1 h with h | h
    · cases (List.cons.inj h).1
    · exact .inr h
  | case4 cs => exact .inr h

theorem lead_of_isName {name : String} (h : IsName name) :
    lead name.toList = ([], name.toList) := by
  generalize hcs : name.toList = cs
  have hslash : '/' ∉ cs := hcs ▸ h.noSlash
  fun_cases lead cs with
  | case1 rest => exact absurd List.mem_cons_self hslash
  | case2 => exact absurd (String.toList_inj.1 hcs) (isPart_iff.1 h.isPart).2
  | case3 rest => simp at hslash
  | case4 => rfl

theorem components_eq (p : PathName) : p.components =
    (lead p.text.toList).1 ++ (pieces (lead p.text.toList).2).filterMap ofPiece? := rfl

/-- Joining a plain name adds a component. -/
theorem components_join {name : String} (h : IsName name) (hne : name ≠ "..") (p : PathName) :
    (p.join name).components = p.components ++ [.name name] := by
  rw [join_eq h, components_eq, components_eq, String.toList_append]
  rcases p.front_cases with ⟨hfront, htext⟩ | ⟨cs, hfront, htext⟩
  · have hadded := filterMap_pieces_append h hne (.inl rfl)
    rw [List.nil_append] at hadded
    rw [hfront, htext, String.toList_empty, List.nil_append, lead_of_isName h, hadded]
    rfl
  · have hslash : ['/'] <:+ cs ++ ['/'] := ⟨cs, rfl⟩
    have hbehind : lead (cs ++ ['/'] ++ name.toList) =
        ((lead (cs ++ ['/'])).1, (lead (cs ++ ['/'])).2 ++ name.toList) :=
      lead_append (by simp) fun hdot => absurd (hdot ▸ hslash) (by decide)
    rw [hfront, hbehind, filterMap_pieces_append h hne (body_of_suffix hslash)]
    rcases htext with htext | htext
    · have hcs : cs ≠ [] := by
        rintro rfl
        have hempty : p.front = "" := by simp [front, String.toList_eq_nil_iff.1 htext]
        simp [hempty] at hfront
      rw [htext, lead_append hcs fun _ => List.prefix_refl _, filterMap_pieces_slash]
      exact (List.append_assoc ..).symm
    · rw [htext, List.append_assoc]

theorem fileName?_join {name : String} (h : IsName name) (hne : name ≠ "..") (p : PathName) :
    (p.join name).fileName? = some name := by
  rw [fileName?, components_join h hne, List.getLast?_concat]

theorem components_joinAll {names : List String} (h : ∀ name ∈ names, IsName name ∧ name ≠ "..")
    (p : PathName) : (p.joinAll names).components = p.components ++ names.map .name := by
  induction names generalizing p with
  | nil => simp [joinAll]
  | cons name names ih =>
    obtain ⟨⟨hname, hne⟩, hnames⟩ := List.forall_mem_cons.1 h
    refine (ih hnames (p.join name)).trans ?_
    rw [components_join hname hne, List.append_assoc]
    rfl

theorem ofPiece?_eq_some_name {piece n : String} (h : ofPiece? piece = some (.name n)) :
    piece = n := by
  unfold ofPiece? at h
  split_ifs at h
  · cases h
  · exact PathPart.name.inj (Option.some.inj h)

/-- A component that is a plain name holds no slash. -/
theorem notMem_of_mem_components {p : PathName} {n : String} (h : .name n ∈ p.components) :
    '/' ∉ n.toList := by
  rw [components_eq] at h
  rcases List.mem_append.1 h with h | h
  · exfalso
    revert h
    fun_cases lead p.text.toList <;> simp
  · obtain ⟨piece, hpiece, heq⟩ := List.mem_filterMap.1 h
    exact ofPiece?_eq_some_name heq ▸ notMem_of_mem_pieces hpiece

/-! ### Temporary files -/

theorem splitExtension_rs {name : String} (hne : name ≠ "") :
    splitExtension (name ++ ".rs") = (name, some "rs") := by
  have hempty : name.toList.reverse.isEmpty = false := by simpa using hne
  simp [splitExtension, hempty]

/-- Cutting off what stands behind the last slash leaves what the name was joined to. -/
theorem take_join {name : String} (h : IsName name) (p : PathName) :
    (p.join name).text.toList.take ((p.join name).text.length -
      ((p.join name).text.toList.reverse.takeWhile (· ≠ '/')).length) = p.front.toList := by
  have hname : ∀ c ∈ name.toList.reverse, (decide (c ≠ '/')) = true := fun c hc =>
    decide_eq_true fun hslash => h.noSlash (hslash ▸ List.mem_reverse.1 hc)
  have hfront : p.front.toList.reverse.takeWhile (· ≠ '/') = [] := by
    rcases p.front_cases with ⟨hfront, -⟩ | ⟨cs, hfront, -⟩ <;> simp [hfront]
  rw [join_eq h, String.toList_append, List.reverse_append, List.takeWhile_append_of_pos hname,
    hfront, ← String.length_toList, String.toList_append]
  simp

/-- The temporary file for a file that ends with `.rs` is beside it. -/
theorem temporary_join {p : PathName} {name : String} (hne : name ≠ "")
    (hslash : '/' ∉ name.toList) :
    (p.join (name ++ ".rs")).temporary = p.join (name ++ ".rs.tmp") := by
  have hrs : IsName (name ++ ".rs") := isName_append hslash (by decide) (by decide)
  have htmp : IsName (name ++ ".rs.tmp") := isName_append hslash (by decide) (by decide)
  have hplain : name ++ ".rs" ≠ ".." := append_ne_of_length (by decide)
  rw [temporary, withExtension, fileName?_join hrs hplain]
  simp only [splitExtension_rs hne, take_join hrs, String.ofList_toList]
  rw [join_eq htmp, temporaryExtension, String.append_assoc, String.append_assoc]
  rfl

end PathName

end PatternFactory
