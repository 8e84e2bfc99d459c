import Scopelight.Proofs.NextMatch
import Scopelight.Proofs.State

/-!
# Runs that follow each other

Two scanners take the same steps if they find the same matches and the captures of a match give them
outputs that compare (`Comparison`). Then the run of one follows the run of the other from any two
cursors that differ in their outputs and in the places of grammars only (`Scanner.Follows.scan`),
and so do the runs over a whole line (`Scanner.Follows.scanLine`). Errors need not compare.
-/

namespace Scopelight

/-! ## Computations -/

/-- What the first computation gives compares with what the second one gives. An error of the first
is one of the second as well, unless errors are let go. -/
inductive Agree (strict : Prop) {α β : Type} (R : α → β → Prop) : Scan α → Scan β → Prop
  | ok {a : α} {b : β} (h : R a b) : Agree strict R (.ok a) (.ok b)
  | error (e : Failure) : Agree strict R (.error e) (.error e)
  | loose {e : Failure} {y : Scan β} (h : ¬ strict) : Agree strict R (.error e) y

section Agree

variable {strict : Prop} {α β γ δ : Type} {R : α → β → Prop} {S : γ → δ → Prop} {x : Scan α}
  {y : Scan β}

theorem Agree.bind (h : Agree strict R x y) {k : α → Scan γ} {k' : β → Scan δ}
    (hk : ∀ a b, R a b → Agree strict S (k a) (k' b)) :
    Agree strict S (x >>= k) (y >>= k') := by
  cases h with
  | ok h => exact hk _ _ h
  | error e => exact .error e
  | loose h => exact .loose h

theorem Agree.map (h : Agree strict R x y) {k : α → γ} {k' : β → δ}
    (hk : ∀ a b, R a b → S (k a) (k' b)) : Agree strict S (k <$> x) (k' <$> y) := by
  cases h with
  | ok h => exact .ok (hk _ _ h)
  | error e => exact .error e
  | loose h => exact .loose h

theorem Agree.mono (h : Agree strict R x y) {R' : α → β → Prop} (hR : ∀ a b, R a b → R' a b) :
    Agree strict R' x y := by
  cases h with
  | ok h => exact .ok (hR _ _ h)
  | error e => exact .error e
  | loose h => exact .loose h

theorem Agree.error_of (h : Agree True R x y) {e : Failure} (hx : x = .error e) :
    y = .error e := by
  cases h with
  | ok h => cases hx
  | error e => cases hx; rfl
  | loose h => exact absurd trivial h

theorem Agree.exists_ok (h : Agree strict R x y) {a : α} (hx : x = .ok a) :
    ∃ b, y = .ok b ∧ R a b := by
  cases h with
  | ok h =>
    cases hx
    exact ⟨_, rfl, h⟩
  | error e => cases hx
  | loose h => cases hx

theorem Agree.eq {x y : Scan α} (h : Agree True Eq x y) : y = x := by
  cases h with
  | ok h => rw [h]
  | error e => rfl
  | loose h => exact absurd trivial h

theorem agree_of_eq {x y : Scan α} (h : y = x) : Agree strict Eq x y := by
  subst h
  rcases y with e | a
  · exact .error e
  · exact .ok rfl

end Agree

/-! ## States at other places -/

/-- All frames are of rules of known grammars. -/
def State.Known (known : Nat → Prop) (s : State) : Prop := ∀ fr ∈ s.frames, known fr.rule.grammar

namespace State

section Known

variable {known : Nat → Prop} {s : State} {fr : Frame}

theorem Known.top (hs : s.Known known) : known s.top.rule.grammar := by
  obtain ⟨fs, hfs⟩ := s.frames_eq_cons
  exact hs _ (hfs ▸ List.mem_cons_self)

theorem Known.push (hs : s.Known known) (hfr : known fr.rule.grammar) :
    (s.push fr).Known known := by
  intro g hg
  rcases List.mem_cons.1 hg with rfl | hg
  · exact hfr
  · exact hs g hg

theorem Known.pop (hs : s.Known known) : s.pop.Known known := by
  intro g hg
  refine hs g ?_
  rcases List.mem_append.1 hg with hg | hg
  · exact List.mem_append_left _ (List.mem_of_mem_drop hg)
  · exact List.mem_append_right _ hg

theorem Known.mapTop (hs : s.Known known) {g : Frame → Frame} (hg : ∀ fr, (g fr).rule = fr.rule) :
    (s.mapTop g).Known known := by
  obtain ⟨document, regions⟩ := s
  have hframe : ∀ fr, known fr.rule.grammar → known (g fr).rule.grammar :=
    fun fr h => (hg fr).symm ▸ h
  intro fr hfr
  rcases regions with _ | ⟨first, rest⟩
  · obtain rfl := List.mem_singleton.1 hfr
    exact hframe _ (hs _ List.mem_cons_self)
  · rcases List.mem_cons.1 hfr with rfl | hfr
    · exact hframe _ (hs _ List.mem_cons_self)
    · exact hs _ (List.mem_cons_of_mem _ hfr)

theorem Known.forgetPlaces (hs : s.Known known) : s.forgetPlaces.Known known := by
  intro fr hfr
  rw [frames_forgetPlaces] at hfr
  obtain ⟨g, hg, rfl⟩ := List.mem_map.1 hfr
  exact hs g hg

theorem Known.document (hs : s.Known known) : State.Known known { s with regions := [] } := by
  intro fr hfr
  obtain rfl := List.mem_singleton.1 hfr
  exact hs _ (List.mem_append_right _ (List.mem_singleton_self _))

end Known

section Move

variable {f : Nat → Nat}

theorem pop_move (s : State) : (s.move f).pop = s.pop.move f := by
  simp [pop, move]

theorem mapTop_move {g : Frame → Frame} (hg : ∀ fr, g (fr.move f) = (g fr).move f) (s : State) :
    (s.move f).mapTop g = (s.mapTop g).move f := by
  obtain ⟨document, regions⟩ := s
  cases regions <;> simp [move, mapTop, hg]

theorem isEmpty_move (s : State) : (s.move f).regions.isEmpty = s.regions.isEmpty := by
  simp [move]

theorem enteredAt_move (hf : Function.Injective f) (s : State) (ref : RuleRef) (pos : Nat) :
    (s.move f).enteredAt (ref.move f) pos = s.enteredAt ref pos := by
  unfold enteredAt
  rw [frames_move, List.any_map]
  refine congrArg (List.any s.frames) (funext fun fr => ?_)
  have hrule : ((fr.move f).rule == ref.move f) = (fr.rule == ref) := by
    rw [Bool.eq_iff_iff, beq_iff_eq, beq_iff_eq]
    exact (RuleRef.move_injective hf).eq_iff
  rw [Function.comp_apply, hrule]
  rfl

theorem forgetPlaces_move (s : State) : (s.move f).forgetPlaces = s.forgetPlaces.move f := by
  simp [move, forgetPlaces, Function.comp_def, Frame.move, Frame.forgetPlaces]

theorem move_id (s : State) : s.move id = s := by
  have hframe : Frame.move id = id := rfl
  simp [move, hframe]

end Move

end State

/-! ## Comparisons -/

/-- How the runs of two scanners compare. -/
structure Comparison where
  /-- Where the grammars of the first scanner stand in the second one. -/
  place : Nat → Nat
  /-- The grammars that states may mention. -/
  known : Nat → Prop
  /-- The captures that the rules have in the second scanner. -/
  captures : CaptureRules → CaptureRules
  /-- Whether errors have to be the same. -/
  strict : Prop
  outputs : Output → Output → Prop

section Comparison

variable (k : Comparison)

/-- Tokenizing a part again compares. -/
def Retokenize.Follows (again again' : Retokenize) : Prop :=
  ∀ s part start firstLine, s.Known k.known →
    Agree k.strict k.outputs (again s part start firstLine)
      (again' (s.move k.place) part start firstLine)

/-- Cursors at the same place in the same state, at their own places. -/
inductive Cursor.Follows : Cursor → Cursor → Prop
  | mk {s : State} {o o' : Output} (pos : Nat) (firstLine : Bool) (anchor : Option Nat)
      (hs : s.Known k.known) (ho : k.outputs o o') :
    Cursor.Follows ⟨s, pos, firstLine, anchor, o⟩ ⟨s.move k.place, pos, firstLine, anchor, o'⟩

inductive Progression.Follows : Progression → Progression → Prop
  | done {c c' : Cursor} (h : c.Follows k c') : Progression.Follows (.done c) (.done c')
  | more {c c' : Cursor} (h : c.Follows k c') : Progression.Follows (.more c) (.more c')

/-- Outputs compare at the start, and when text gets scopes and captures get theirs. -/
structure Comparison.Lawful : Prop where
  captures_nil : k.captures [] = []
  start : ∀ start, k.outputs (.startAt start) (.startAt start)
  produce : ∀ o o' stop scopes, k.outputs o o' →
    k.outputs (o.produce stop scopes) (o'.produce stop scopes)
  emit : ∀ again again' s line grammar rules m firstLine o o', Retokenize.Follows k again again' →
    s.Known k.known → k.known grammar → k.outputs o o' →
    Agree k.strict k.outputs (emitCaptures again s line grammar rules m firstLine o)
      (emitCaptures again' (s.move k.place) line (k.place grammar) (k.captures rules) m firstLine
        o')

/-- The grammars of the first scanner stand in the second one, with captures changed, and the
scanners find the same matches. -/
structure Scanner.Follows (sc sc' : Scanner) : Prop where
  alike : sc.Alike k.place sc'
  grammar : ∀ id, k.known id →
    sc'.registry.grammar? (k.place id) =
      (sc.registry.grammar? id).map (Grammar.mapCaptures k.captures)
  known : ∀ id g, sc.registry.grammar? id = some g → k.known id

end Comparison

/-- The captures of the match that closes a region. -/
def Rule.closingCaptures : Rule → CaptureRules
  | region r => r.closingCaptures
  | _ => []

namespace Scanner

/-- The captures of the match that closes the innermost region. -/
def closingCaptures (sc : Scanner) (s : State) : CaptureRules :=
  ((sc.registry.rule? s.top.rule).map Rule.closingCaptures).getD []

/-- The frame at the closing match of its region. -/
def closingFrame (f : Frame) : Frame := { f with contentScopes := f.nameScopes }

/-- The cursor behind a closing match, when its captures have got their scopes. -/
def afterEnd (c : Cursor) (s : State) (m : Regex.Match) (o : Output) : Cursor :=
  let empty := m.start == m.stop
  if s.regions.isEmpty then
    ⟨s, m.stop, c.firstLine && empty, c.anchor, o.produce m.stop s.top.nameScopes⟩
  else
    ⟨s.pop, if empty && s.top.entered == some m.start then m.start + 1 else m.stop,
      c.firstLine && empty, s.top.anchor, o.produce m.stop s.top.nameScopes⟩

theorem applyEnd_eq (sc : Scanner) (again : Retokenize) (line : Array Char) (c : Cursor)
    (m : Regex.Match) :
    sc.applyEnd again line c m =
      afterEnd c (c.state.mapTop closingFrame) m <$>
        emitCaptures again (c.state.mapTop closingFrame) line
          (c.state.mapTop closingFrame).top.rule.grammar
          (sc.closingCaptures (c.state.mapTop closingFrame)) m c.firstLine
          (c.output.produce m.start c.state.scopes) := by
  have hclosing : (fun f : Frame => { f with contentScopes := f.nameScopes }) = closingFrame := rfl
  unfold applyEnd closingCaptures
  simp only [hclosing]
  generalize c.state.mapTop closingFrame = s
  have hbind : ∀ x : Scan Output, (x >>= fun o =>
      let o := o.produce m.stop s.top.nameScopes
      let empty := m.start == m.stop
      if s.regions.isEmpty then
        pure ⟨s, m.stop, c.firstLine && empty, c.anchor, o⟩
      else
        pure ⟨s.pop, if empty && s.top.entered == some m.start then m.start + 1 else m.stop,
          c.firstLine && empty, s.top.anchor, o⟩) = afterEnd c s m <$> x := by
    intro x
    rcases x with e | o
    · rfl
    · unfold afterEnd
      change ite _ _ _ = Except.ok (ite _ _ _)
      split_ifs <;> rfl
  -- a rule that is no region has no captures here, as if it had an empty list of them
  obtain hr | ⟨rule, hr⟩ := Option.eq_none_or_eq_some (sc.registry.rule? s.top.rule)
  · rw [hr]
    exact hbind (.ok _)
  · rw [hr]
    cases rule <;> exact hbind _

end Scanner

/-! ## A step -/

section Step

variable {k : Comparison} {sc sc' : Scanner} {again again' : Retokenize} {line : Array Char}
  {c c' : Cursor} {m : Regex.Match} {ref : RuleRef} {rule : Rule}

theorem Scanner.Follows.ruleAt (h : sc.Follows k sc') (href : k.known ref.grammar) :
    sc'.registry.rule? (ref.move k.place) =
      (sc.registry.rule? ref).map (Rule.mapCaptures k.captures) := by
  unfold Registry.rule?
  change (sc'.registry.grammar? (k.place ref.grammar)).bind _ = _
  rw [h.grammar _ href, Option.bind_map, Option.map_bind]
  congr 1
  funext g
  exact g.rule_mapCaptures k.captures ref.rule

theorem Scanner.Follows.known_of_rule (h : sc.Follows k sc')
    (hr : sc.registry.rule? ref = some rule) : k.known ref.grammar := by
  obtain ⟨g, hg, -⟩ := Option.bind_eq_some_iff.1 hr
  exact h.known _ g hg

theorem Scanner.Follows.closingCaptures (h : sc.Follows k sc') (hk : k.Lawful) {s : State}
    (hs : s.Known k.known) :
    sc'.closingCaptures (s.move k.place) = k.captures (sc.closingCaptures s) := by
  unfold Scanner.closingCaptures
  rw [State.top_move]
  change ((sc'.registry.rule? (s.top.rule.move k.place)).map _).getD [] = _
  rw [h.ruleAt hs.top]
  obtain hr | ⟨rule, hr⟩ := Option.eq_none_or_eq_some (sc.registry.rule? s.top.rule)
  · rw [hr]
    exact hk.captures_nil.symm
  · rw [hr]
    cases rule with
    | region r => rfl
    | _ => exact hk.captures_nil.symm

theorem closingFrame_move (f : Nat → Nat) (fr : Frame) :
    Scanner.closingFrame (fr.move f) = (Scanner.closingFrame fr).move f := rfl

theorem Scanner.Follows.applyEnd (h : sc.Follows k sc') (hk : k.Lawful)
    (ha : again.Follows k again') (hc : c.Follows k c') :
    Agree k.strict (Cursor.Follows k) (sc.applyEnd again line c m)
      (sc'.applyEnd again' line c' m) := by
  cases hc with
  | @mk s o o' pos firstLine anchor hs ho =>
    have hclosing := hs.mapTop (g := closingFrame) fun fr => rfl
    have hemit := hk.emit _ _ _ line _ (sc.closingCaptures (s.mapTop closingFrame)) m firstLine _ _
      ha hclosing hclosing.top (hk.produce o o' m.start s.scopes ho)
    rw [applyEnd_eq, applyEnd_eq]
    simp only [State.mapTop_move (closingFrame_move k.place), h.closingCaptures hk hclosing,
      State.scopes_move, State.top_move] at hemit ⊢
    refine hemit.map fun p p' hp => ?_
    have hp := hk.produce _ _ m.stop (s.mapTop closingFrame).top.nameScopes hp
    unfold afterEnd
    simp only [State.isEmpty_move, State.pop_move, State.top_move]
    rcases (s.mapTop closingFrame).regions.isEmpty with _ | _
    · exact .mk _ _ _ hclosing.pop hp
    · exact .mk _ _ _ hclosing hp

theorem openFrame_move {f : Nat → Nat} {h : CaptureRules → CaptureRules} {s : State} {pos : Nat}
    {firstLine : Bool} {anchor : Option Nat} {o o' : Output} :
    Scanner.openFrame ⟨s.move f, pos, firstLine, anchor, o'⟩ line (ref.move f)
        (rule.mapCaptures h) m =
      (Scanner.openFrame ⟨s, pos, firstLine, anchor, o⟩ line ref rule m).move f := by
  unfold Scanner.openFrame
  simp only [State.scopes_move, Rule.name_mapCaptures]
  rfl

/-- The tokens of an opening match or of a single rule. -/
theorem Comparison.Lawful.emit_opening (hk : k.Lawful) (ha : again.Follows k again') {s : State}
    {o o' : Output} {fr : Frame} {firstLine : Bool} (hs : s.Known k.known)
    (hfr : k.known fr.rule.grammar) (ho : k.outputs o o') (rules : CaptureRules) :
    Agree k.strict k.outputs
      (emitCaptures again (s.push fr) line fr.rule.grammar rules m firstLine
        (o.produce m.start s.scopes))
      (emitCaptures again' ((s.move k.place).push (fr.move k.place)) line (k.place fr.rule.grammar)
        (k.captures rules) m firstLine (o'.produce m.start (s.move k.place).scopes)) := by
  rw [State.scopes_move]
  exact hk.emit _ _ _ line _ rules m firstLine _ _ ha (hs.push hfr) hfr (hk.produce _ _ _ _ ho)

theorem Scanner.Follows.endError (h : sc.Follows k sc') (href : k.known ref.grammar)
    (e : PatternError) :
    endError sc'.registry (ref.move k.place) e = endError sc.registry ref e := by
  unfold Scopelight.endError
  change GrammarError.invalidPattern (((sc'.registry.grammar? (k.place ref.grammar)).map _).getD "")
    _ _ = _
  rw [h.grammar _ href, Option.map_map]
  rfl

theorem Scanner.Follows.openRegion (h : sc.Follows k sc') (hk : k.Lawful)
    (ha : again.Follows k again') (hc : c.Follows k c') (href : k.known ref.grammar)
    (ending : EndTemplate) (captures : CaptureRules) :
    Agree k.strict (Cursor.Follows k) (sc.openRegion again line c ref rule ending captures m)
      (sc'.openRegion again' line c' (ref.move k.place) (rule.mapCaptures k.captures) ending
        (k.captures captures) m) := by
  cases hc with
  | @mk s o o' pos firstLine anchor hs ho =>
    unfold Scanner.openRegion
    rw [openFrame_move (o := o)]
    refine (hk.emit_opening ha hs href ho captures).bind fun p p' hp => ?_
    rcases hq : ending.instantiate line m with e | q
    · simp only [h.endError href]
      exact .error _
    · simp only [Rule.contentName_mapCaptures]
      exact .ok (.mk _ _ _ (hs.push href) (hk.produce _ _ _ _ hp))

theorem Comparison.Lawful.applySingle (hk : k.Lawful) (ha : again.Follows k again')
    (hc : c.Follows k c') (href : k.known ref.grammar) (captures : CaptureRules) :
    Agree k.strict (Cursor.Follows k) (Scanner.applySingle again line c ref rule captures m)
      (Scanner.applySingle again' line c' (ref.move k.place) (rule.mapCaptures k.captures)
        (k.captures captures) m) := by
  cases hc with
  | @mk s o o' pos firstLine anchor hs ho =>
    unfold Scanner.applySingle
    rw [openFrame_move (o := o)]
    refine (hk.emit_opening ha hs href ho captures).bind fun p p' hp => ?_
    exact .ok (.mk _ _ _ hs (hk.produce _ _ _ _ hp))

theorem Cursor.Follows.moveOn (hc : c.Follows k c') (pos : Nat) :
    Cursor.Follows k { c with pos } { c' with pos } := by
  cases hc with
  | mk _ firstLine anchor hs ho => exact .mk pos firstLine anchor hs ho

theorem Cursor.Follows.enteredAt (hc : c.Follows k c') (hf : Function.Injective k.place)
    (ref : RuleRef) (pos : Nat) :
    c'.state.enteredAt (ref.move k.place) pos = c.state.enteredAt ref pos := by
  cases hc with
  | mk _ _ _ hs ho => exact State.enteredAt_move hf _ ref pos

theorem Scanner.Follows.applyRule (h : sc.Follows k sc') (hk : k.Lawful)
    (ha : again.Follows k again') (hc : c.Follows k c') (href : k.known ref.grammar) :
    Agree k.strict (Cursor.Follows k) (sc.applyRule again line c ref m)
      (sc'.applyRule again' line c' (ref.move k.place) m) := by
  have hentered := hc.enteredAt h.alike.registry.injective ref m.start
  unfold Scanner.applyRule
  rw [h.ruleAt href]
  obtain hr | ⟨rule, hr⟩ := Option.eq_none_or_eq_some (sc.registry.rule? ref)
  · rw [hr]
    exact .ok (hc.moveOn _)
  · rw [hr]
    cases rule with
    | single r => exact hk.applySingle ha hc href r.captures
    | region r =>
      simp only [Option.map_some, Rule.mapCaptures, hentered]
      split_ifs
      · exact .ok (hc.moveOn _)
      · exact h.openRegion hk ha hc href r.closing r.openingCaptures
    | whileRegion r =>
      simp only [Option.map_some, Rule.mapCaptures, hentered]
      split_ifs
      · exact .ok (hc.moveOn _)
      · exact h.openRegion hk ha hc href r.condition r.openingCaptures
    | _ => exact .ok (hc.moveOn _)

/-- A step follows the step from the other cursor. -/
theorem Scanner.Follows.step (h : sc.Follows k sc') (hk : k.Lawful) (ha : again.Follows k again')
    (hc : c.Follows k c') :
    Agree k.strict (Progression.Follows k) (sc.step again line c) (sc'.step again' line c') := by
  have hfind : sc'.findNext c'.state line c'.pos ⟨c'.firstLine, c'.anchor⟩ =
      (sc.findNext c.state line c.pos ⟨c.firstLine, c.anchor⟩).map (Found.move k.place) := by
    cases hc with
    | mk _ _ _ hs ho =>
      refine h.alike.findNext ?_
      unfold Registry.AlikeAt
      rw [h.grammar _ hs.top, Option.map_map]
      exact congrArg (Option.map · _) (funext fun g => g.bare_mapCaptures k.captures)
  rw [Scanner.step_eq, Scanner.step_eq, hfind]
  rcases hf : sc.findNext c.state line c.pos ⟨c.firstLine, c.anchor⟩ with _ | ⟨candidate, m⟩
  · refine .ok (.done ?_)
    cases hc with
    | mk _ _ _ hs ho =>
      rw [State.scopes_move]
      exact .mk _ _ _ hs (hk.produce _ _ _ _ ho)
  · cases candidate with
    | ending => exact (h.applyEnd hk ha hc).map fun _ _ hcc => .more hcc
    | rule ref =>
      obtain ⟨rule, p, hr, -, -⟩ := Scanner.findNext_rule hf
      exact (h.applyRule hk ha hc (h.known_of_rule hr)).map fun _ _ hcc => .more hcc

/-! ## A run -/

theorem Comparison.Lawful.retokenize (hk : k.Lawful) {n : Nat}
    (hscan : ∀ line c c', c.Follows k c' →
      Agree k.strict (Cursor.Follows k) (sc.scan n line c) (sc'.scan n line c')) :
    Retokenize.Follows k (sc.retokenize n) (sc'.retokenize n) := by
  intro s part start firstLine hs
  refine (hscan _ _ _ (.mk _ _ _ hs (hk.start start))).map fun c c' hcc => ?_
  cases hcc with
  | mk _ _ _ _ ho => exact ho

theorem Scanner.Follows.scan (h : sc.Follows k sc') (hk : k.Lawful) (n : Nat) (line : Array Char)
    (c c' : Cursor) (hc : c.Follows k c') :
    Agree k.strict (Cursor.Follows k) (sc.scan n line c) (sc'.scan n line c') := by
  induction n generalizing line c c' with
  | zero => exact .error _
  | succ n ih =>
    -- the captures of the step are scanned with the rest of the fuel
    refine (h.step hk (hk.retokenize ih) hc).bind fun p p' hp => ?_
    cases hp with
    | done hcc => exact .ok hcc
    | more hcc => exact ih _ _ _ hcc

theorem Scanner.Follows.checkWhile (h : sc.Follows k sc') (hk : k.Lawful)
    (ha : again.Follows k again') {fs : List Frame} (hfs : ∀ fr ∈ fs, k.known fr.rule.grammar)
    (hc : c.Follows k c') :
    Agree k.strict (Cursor.Follows k) (sc.checkWhile again line fs c)
      (sc'.checkWhile again' line (fs.map (Frame.move k.place)) c') := by
  induction fs generalizing c c' with
  | nil => exact .ok hc
  | cons fr fs ih =>
    have hfr := hfs fr List.mem_cons_self
    have hrest : ∀ g ∈ fs, k.known g.rule.grammar := fun g hg =>
      hfs g (List.mem_cons_of_mem fr hg)
    cases hc with
    | @mk s o o' pos firstLine anchor hs ho =>
      have hinside : (s.push fr).Known k.known := hs.push hfr
      have hopen := ih hrest (.mk pos firstLine anchor hinside ho)
      have hrule := h.ruleAt hfr
      simp only [List.map_cons, Scanner.checkWhile, Frame.move_rule, Frame.move_ending, hrule]
      obtain hr | ⟨rule, hr⟩ := Option.eq_none_or_eq_some (sc.registry.rule? fr.rule)
      · rw [hr]
        exact hopen
      rw [hr]
      cases rule with
      | whileRegion r =>
        rcases fr.ending with _ | p
        · exact hopen
        simp only [Option.map_some, Rule.mapCaptures]
        rcases p.matchAt line pos ⟨firstLine, anchor⟩ with _ | m
        · exact .ok (.mk _ _ _ hs ho)
        · refine Agree.bind (hk.emit _ _ _ _ _ r.conditionCaptures _ _ _ _ ha hinside hfr
            (hk.produce _ _ m.start fr.contentScopes ho)) fun p p' hp => ?_
          have hp := hk.produce _ _ m.stop fr.contentScopes hp
          split_ifs
          · exact ih hrest (.mk _ _ _ hinside hp)
          · exact ih hrest (.mk _ _ _ hinside hp)
      | _ => exact hopen

theorem Scanner.Follows.scanLine (h : sc.Follows k sc') (hk : k.Lawful) {s : State}
    (hs : s.Known k.known) (fuel : Nat) (line : Array Char) (firstLine : Bool) :
    Agree k.strict (Cursor.Follows k) (sc.scanLine fuel s line firstLine)
      (sc'.scanLine fuel (s.move k.place) line firstLine) := by
  have hstart : (lineStart s firstLine).Follows k (lineStart (s.move k.place) firstLine) := by
    unfold lineStart
    rw [State.top_move]
    exact .mk _ _ _ hs.document (hk.start 0)
  have hregions : (s.move k.place).regions.reverse =
      s.regions.reverse.map (Frame.move k.place) := by
    simp [State.move]
  unfold Scanner.scanLine
  rw [hregions]
  refine (h.checkWhile hk (hk.retokenize (h.scan hk fuel)) ?_ hstart).bind fun c c' hcc =>
    h.scan hk fuel line c c' hcc
  exact fun fr hfr => hs fr (List.mem_append_left _ (List.mem_reverse.1 hfr))

end Step

end Scopelight
