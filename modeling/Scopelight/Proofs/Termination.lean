import Mathlib.Tactic.Common
import Scopelight.Proofs.Match
import Scopelight.Proofs.State

/-!
# Scans end

A step that stays where it is either opens a region of a rule that was not entered there, or closes a
region that was opened elsewhere. So a scan can open one region for each rule at a place and close
what is open, but then it has to go on: `Cursor.energy` counts the places that are left, the regions,
and twice the rules that were not entered, and every step lowers it (`Step.energy_lt`). Where no
capture is tokenized again a line is scanned in as many steps, whatever more is allowed
(`scanLine_ends`).
-/

namespace Scopelight

namespace Registry

/-- No capture is tokenized again. -/
def FlatCaptures (r : Registry) : Prop :=
  ∀ g ∈ r.grammars.toList, ∀ rule ∈ g.rules.toList, ∀ e ∈ rule.captures, e.2.patterns = none

/-- The patterns that scans search for: those of the rules, and those that templates give. -/
inductive Uses (r : Registry) : Pattern → Prop
  | scan {ref : RuleRef} {rule : Rule} {p : Pattern} (hr : r.rule? ref = some rule)
      (hp : rule.scanPattern? = some p) : Uses r p
  | template {ref : RuleRef} {rule : Rule} {t : EndTemplate} {line : Array Char}
      {m : Regex.Match} {p : Pattern} (hr : r.rule? ref = some rule) (ht : rule.template? = some t)
      (hp : t.instantiate line m = .ok p) : Uses r p

/-- All rules of all grammars. -/
def refs (r : Registry) : List RuleRef :=
  r.grammars.toList.zipIdx.flatMap fun (g, id) => (List.range g.rules.size).map (⟨id, ·⟩)

section Rules

variable {r : Registry} {ref : RuleRef} {rule : Rule}

theorem exists_grammar_of_rule (h : r.rule? ref = some rule) :
    ∃ g, r.grammars.toList[ref.grammar]? = some g ∧ g.rules.toList[ref.rule]? = some rule := by
  obtain ⟨g, hg, hrule⟩ := Option.bind_eq_some_iff.1 h
  unfold grammar? at hg
  unfold Grammar.rule? at hrule
  exact ⟨g, by rwa [Array.getElem?_toList], by rwa [Array.getElem?_toList]⟩

theorem mem_refs (h : r.rule? ref = some rule) : ref ∈ r.refs := by
  obtain ⟨g, hg, hrule⟩ := exists_grammar_of_rule h
  refine List.mem_flatMap.2 ⟨(g, ref.grammar), List.mem_zipIdx_iff_getElem?.2 hg, ?_⟩
  refine List.mem_map.2 ⟨ref.rule, List.mem_range.2 ?_, rfl⟩
  exact (List.getElem?_eq_some_iff.1 hrule).1

theorem FlatCaptures.patterns (hflat : r.FlatCaptures) (h : r.rule? ref = some rule) :
    ∀ e ∈ rule.captures, e.2.patterns = none := by
  obtain ⟨g, hg, hrule⟩ := exists_grammar_of_rule h
  exact hflat g (List.mem_of_getElem? hg) rule (List.mem_of_getElem? hrule)

end Rules

end Registry

/-! ## Energy -/

/-- How many of these rules have no open region that was entered at a place. -/
def State.unentered (s : State) (refs : List RuleRef) (pos : Nat) : Nat :=
  refs.countP fun ref => !s.enteredAt ref pos

/-- A bound for the steps that are left in a text of this size. -/
def Cursor.energy (refs : List RuleRef) (size : Nat) (c : Cursor) : Nat :=
  (2 * refs.length + 2) * (size + 1 - c.pos) + c.state.depth + 2 * c.state.unentered refs c.pos

section Energy

variable {refs : List RuleRef} {size : Nat} {s : State} {c c' : Cursor}

theorem unentered_le (s : State) (refs : List RuleRef) (pos : Nat) :
    s.unentered refs pos ≤ refs.length :=
  List.countP_le_length

theorem enteredAt_push (s : State) (f : Frame) (ref : RuleRef) (pos : Nat) :
    (s.push f).enteredAt ref pos =
      ((f.rule == ref && f.entered == some pos) || s.enteredAt ref pos) := rfl

theorem unentered_push_of_ne {f : Frame} {pos : Nat} (h : f.entered ≠ some pos) :
    (s.push f).unentered refs pos = s.unentered refs pos := by
  unfold State.unentered
  congr 1
  funext ref
  rw [enteredAt_push, beq_eq_false_iff_ne.2 h, Bool.and_false, Bool.false_or]

theorem unentered_push_lt {f : Frame} {pos : Nat} (hf : f.entered = some pos)
    (hmem : f.rule ∈ refs) (hnew : s.enteredAt f.rule pos = false) :
    (s.push f).unentered refs pos < s.unentered refs pos := by
  obtain ⟨before, after, rfl⟩ := List.append_of_mem hmem
  have hmono : ∀ refs : List RuleRef, (s.push f).unentered refs pos ≤ s.unentered refs pos := by
    intro refs
    refine List.countP_mono_left fun ref _ h => ?_
    rw [enteredAt_push] at h
    simp only [Bool.not_eq_true', Bool.or_eq_false_iff] at h ⊢
    exact h.2
  have hbefore := hmono before
  have hafter := hmono after
  have hentered : (s.push f).enteredAt f.rule pos = true := by
    rw [enteredAt_push, hf]
    simp
  unfold State.unentered at *
  simp only [List.countP_append, List.countP_cons, hentered, hnew, Bool.not_true, Bool.not_false,
    if_true, Bool.false_eq_true, if_false]
  omega

/-- Going on pays for any rules that may be entered at the new place. -/
theorem energy_lt_of_pos_lt (hpos : c.pos < c'.pos) (hsize : c.pos ≤ size)
    (hdepth : c'.state.depth ≤ c.state.depth + 1) : c'.energy refs size < c.energy refs size := by
  have hle := unentered_le c'.state refs c'.pos
  have hmul := Nat.mul_le_mul_left (2 * refs.length + 2)
    (show size + 1 - c'.pos + 1 ≤ size + 1 - c.pos by omega)
  rw [Nat.mul_add, Nat.mul_one] at hmul
  unfold Cursor.energy
  omega

theorem energy_lt_of_push {f : Frame} (hpos : c'.pos = c.pos) (hs : c'.state = c.state.push f)
    (hf : f.entered = some c.pos) (hmem : f.rule ∈ refs)
    (hnew : c.state.enteredAt f.rule c.pos = false) :
    c'.energy refs size < c.energy refs size := by
  have hlt := unentered_push_lt hf hmem hnew
  have hdepth : (c.state.push f).depth = c.state.depth + 1 := rfl
  unfold Cursor.energy
  rw [hpos, hs, hdepth]
  omega

theorem energy_lt_of_pop {f : Frame} (hpos : c'.pos = c.pos) (hs : c.state = c'.state.push f)
    (hf : f.entered ≠ some c.pos) : c'.energy refs size < c.energy refs size := by
  have hdepth : (c'.state.push f).depth = c'.state.depth + 1 := rfl
  unfold Cursor.energy
  rw [hpos, hs, hdepth, unentered_push_of_ne hf]
  omega

end Energy

section Step

variable {sc : Scanner} {again : Retokenize} {line : Array Char} {c c' : Cursor} {root : RuleRef}
  {scope : String}

theorem Step.energy_lt (h : Step sc again line c c') (hc : c.state.Nested sc.registry root scope)
    (hforward : ∀ p, sc.registry.Uses p → p.Forward) :
    c'.energy sc.registry.refs line.size < c.energy sc.registry.refs line.size := by
  have hbounds : ∀ {p : Pattern} {m : Regex.Match}, sc.registry.Uses p →
      p.search line c.pos ⟨c.firstLine, c.anchor⟩ = some m →
      c.pos ≤ m.start ∧ m.start ≤ m.stop ∧ m.stop ≤ line.size :=
    fun hp hm => ⟨hforward _ hp _ _ _ _ hm, Pattern.search_whole hm⟩
  cases h with
  | @close f fs r p m o hs hr he hm ho =>
    have hstate : c.state = State.push ⟨c.state.document, fs⟩ f := by
      rw [State.push, ← hs]
    obtain ⟨rule, t, opening, m', q, hr', ht, hq, he'⟩ := (hc.opened f (by simp [hs])).pattern
    obtain rfl : p = q := Option.some.inj (he.symm.trans he')
    obtain ⟨hstart, hle, hstop⟩ := hbounds (.template hr' ht hq) hm
    by_cases hold : m.stop = c.pos ∧ f.entered ≠ some c.pos
    · obtain ⟨hpos, hentered⟩ := hold
      have hm' : m.start = c.pos := by omega
      refine energy_lt_of_pop ?_ hstate hentered
      dsimp only
      rw [if_neg (by rw [hm']; exact fun h => hentered h.2), hpos]
    · refine energy_lt_of_pos_lt ?_ (by omega) ?_
      · dsimp only
        split_ifs with hempty
        · omega
        · by_contra hlt
          have hm' : m.start = c.pos := by omega
          refine hold ⟨by omega, fun hentered => hempty ⟨by omega, ?_⟩⟩
          rw [hm', hentered]
      · rw [hstate]
        exact Nat.le_succ_of_le (Nat.le_succ _)
  | closeDocument hs hr he hm ho =>
    have := hc.ending
    rw [hs] at this
    rw [this] at he
    cases he
  | @single ref r m o hr hm ho =>
    obtain ⟨hstart, hle, hstop⟩ := hbounds (.scan hr rfl) hm
    refine energy_lt_of_pos_lt ?_ (by omega) (Nat.le_succ _)
    dsimp only
    split_ifs <;> omega
  | @skip ref rule p m hr hp hm hempty hentered =>
    obtain ⟨hstart, hle, hstop⟩ := hbounds (.scan hr hp) hm
    exact energy_lt_of_pos_lt (by dsimp only; omega) (by omega) (Nat.le_succ _)
  | @opens ref rule t p q m o hr ht hp hm hnew ho hq =>
    obtain ⟨hstart, hle, hstop⟩ := hbounds (.scan hr hp) hm
    by_cases hpos : m.stop = c.pos
    · have hm' : m.start = c.pos := by omega
      exact energy_lt_of_push hpos rfl (congrArg some hm') (Registry.mem_refs hr)
        (hm' ▸ hnew (by omega))
    · exact energy_lt_of_pos_lt (by dsimp only; omega) (by omega) (Nat.le_refl _)

end Step

/-! ## Without captures that are tokenized again -/

section Flat

variable {s : State} {line : Array Char} {grammar : Nat} {m : Regex.Match} {firstLine : Bool}
  {rules : CaptureRules}

theorem emitGroups_flat (hflat : ∀ e ∈ rules, e.2.patterns = none) (open_ : List OpenCapture)
    (o : Output) :
    ∃ o', ∀ again, emitGroups again s line grammar m firstLine rules open_ o = .ok o' := by
  induction rules generalizing open_ o with
  | nil => exact ⟨closeAll open_ o, fun _ => rfl⟩
  | cons e rest ih =>
    obtain ⟨n, rule⟩ := e
    have hrule : rule.patterns = none := hflat (n, rule) List.mem_cons_self
    replace ih := ih fun e he => hflat e (List.mem_cons_of_mem _ he)
    rcases hn : m.group? n with _ | span
    · obtain ⟨o', ho⟩ := ih open_ o
      exact ⟨o', fun again => by simp only [emitGroups, hn, ho]⟩
    by_cases hempty : span.stop ≤ span.start
    · obtain ⟨o', ho⟩ := ih open_ o
      exact ⟨o', fun again => by simp only [emitGroups, hn, if_pos hempty, ho]⟩
    rcases hclose : closeCaptures span.start open_ o with ⟨open₁, o₁⟩
    rcases hscopes : expandName rule.name line m with _ | ⟨scope, scopes⟩
    · obtain ⟨o', ho⟩ := ih open₁ (o₁.produce span.start (captureScopes s open₁))
      refine ⟨o', fun again => ?_⟩
      simp only [emitGroups, hn, if_neg hempty, hclose, hrule, hscopes]
      exact ho again
    · obtain ⟨o', ho⟩ := ih (⟨captureScopes s open₁ ++ scope :: scopes, span.stop⟩ :: open₁)
        (o₁.produce span.start (captureScopes s open₁))
      refine ⟨o', fun again => ?_⟩
      simp only [emitGroups, hn, if_neg hempty, hclose, hrule, hscopes]
      exact ho again

theorem emitCaptures_flat (hflat : ∀ e ∈ rules, e.2.patterns = none) (o : Output) :
    ∃ o', ∀ again, emitCaptures again s line grammar rules m firstLine o = .ok o' :=
  emitGroups_flat hflat [] o

end Flat

namespace Scanner

/-- An answer that is the same however parts are tokenized again, and not that steps ran out. -/
def Steady {α : Type} (f : Retokenize → Scan α) : Prop :=
  ∃ x, x ≠ .error .stepLimit ∧ ∀ again, f again = x

theorem error_ne_stepLimit {α β : Type} {e : Failure}
    (h : (.error e : Scan α) ≠ .error .stepLimit) : (.error e : Scan β) ≠ .error .stepLimit :=
  fun he => h (congrArg _ (Except.error.inj he))

section Steady

variable {α β : Type} {f : Retokenize → Scan α}

theorem steady_ok (a : α) : Steady fun _ => Except.ok a :=
  ⟨.ok a, by simp, fun _ => rfl⟩

theorem Steady.bind (hf : Steady f) {g : α → Retokenize → Scan β} (hg : ∀ a, Steady (g a)) :
    Steady fun again => f again >>= fun a => g a again := by
  obtain ⟨x, hx, hfx⟩ := hf
  simp only [hfx]
  rcases x with e | a
  · exact ⟨.error e, error_ne_stepLimit hx, fun _ => rfl⟩
  · exact hg a

theorem Steady.map (hf : Steady f) (g : α → β) : Steady fun again => g <$> f again := by
  obtain ⟨x, hx, hfx⟩ := hf
  simp only [hfx]
  rcases x with e | a
  · exact ⟨.error e, error_ne_stepLimit hx, fun _ => rfl⟩
  · exact steady_ok (g a)

theorem steady_emitCaptures {rules : CaptureRules} (hflat : ∀ e ∈ rules, e.2.patterns = none)
    (s : State) (line : Array Char) (grammar : Nat) (m : Regex.Match) (firstLine : Bool)
    (o : Output) :
    Steady fun again => emitCaptures again s line grammar rules m firstLine o := by
  obtain ⟨o', ho⟩ := emitCaptures_flat hflat o
  exact ⟨.ok o', by simp, ho⟩

end Steady

section Flat

variable {sc : Scanner}

theorem steady_applyEnd (hflat : sc.registry.FlatCaptures) (line : Array Char) (c : Cursor)
    (m : Regex.Match) : Steady fun again => sc.applyEnd again line c m := by
  unfold applyEnd
  dsimp only
  split
  · rename_i r hr
    refine (steady_emitCaptures ?_ _ _ _ _ _ _).bind fun o => ?_
    · exact fun e he => hflat.patterns hr e (List.mem_append_right _ he)
    · split_ifs <;> exact steady_ok _
  · simp only [pure_bind]
    split_ifs <;> exact steady_ok _

theorem steady_openRegion {captures : CaptureRules}
    (hflat : ∀ e ∈ captures, e.2.patterns = none) (line : Array Char) (c : Cursor) (ref : RuleRef)
    (rule : Rule) (ending : EndTemplate) (m : Regex.Match) :
    Steady fun again => sc.openRegion again line c ref rule ending captures m := by
  unfold openRegion
  refine Steady.bind (steady_emitCaptures hflat _ _ _ _ _ _) fun o => ?_
  dsimp only
  split
  · exact ⟨.error (.grammar _), by simp, fun _ => rfl⟩
  · exact steady_ok _

theorem steady_applyRule (hflat : sc.registry.FlatCaptures) (line : Array Char) (c : Cursor)
    (ref : RuleRef) (m : Regex.Match) : Steady fun again => sc.applyRule again line c ref m := by
  unfold applyRule
  dsimp only
  split
  · rename_i r hr
    unfold applySingle
    exact (steady_emitCaptures (hflat.patterns hr) _ _ _ _ _ _).bind fun o => steady_ok _
  · rename_i r hr
    split_ifs
    · exact steady_ok _
    · refine steady_openRegion ?_ _ _ _ _ _ _
      exact fun e he => hflat.patterns hr e (List.mem_append_left _ he)
  · rename_i r hr
    split_ifs
    · exact steady_ok _
    · refine steady_openRegion ?_ _ _ _ _ _ _
      exact fun e he => hflat.patterns hr e (List.mem_append_left _ he)
  · exact steady_ok _

theorem steady_step (hflat : sc.registry.FlatCaptures) (line : Array Char) (c : Cursor) :
    Steady fun again => sc.step again line c := by
  simp only [step_eq]
  split
  · exact steady_ok _
  · exact (steady_applyEnd hflat line c _).map _
  · exact (steady_applyRule hflat line c _ _).map _

theorem steady_checkWhile (hflat : sc.registry.FlatCaptures) (line : Array Char) (fs : List Frame)
    (c : Cursor) : Steady fun again => sc.checkWhile again line fs c := by
  induction fs generalizing c with
  | nil => exact steady_ok c
  | cons f fs ih =>
    unfold checkWhile
    dsimp only
    split
    · rename_i r p hr he
      split
      · exact steady_ok _
      · refine Steady.bind (steady_emitCaptures ?_ _ _ _ _ _ _) fun o => ?_
        · exact fun e he => hflat.patterns hr e (List.mem_append_right _ he)
        · split_ifs <;> exact ih _
    · exact ih _

end Flat

section Run

variable {sc : Scanner} {line : Array Char} {root : RuleRef} {scope : String}

/-- With more fuel than energy a scan has one outcome, and it is not that steps ran out. -/
theorem scan_ends {c : Cursor} (hflat : sc.registry.FlatCaptures)
    (hforward : ∀ p, sc.registry.Uses p → p.Forward)
    (hc : c.state.Nested sc.registry root scope) :
    ∃ x, x ≠ .error .stepLimit ∧
      ∀ fuel, c.energy sc.registry.refs line.size < fuel → sc.scan fuel line c = x := by
  obtain ⟨progression, hne, hstep⟩ := steady_step hflat line c
  rcases progression with e | c₁ | c₁
  · refine ⟨.error e, error_ne_stepLimit hne, fun fuel hfuel => ?_⟩
    obtain ⟨fuel, rfl⟩ := Nat.exists_eq_add_of_lt hfuel
    exact scan_of_error (hstep _)
  · refine ⟨.ok c₁, by simp, fun fuel hfuel => ?_⟩
    obtain ⟨fuel, rfl⟩ := Nat.exists_eq_add_of_lt hfuel
    exact scan_of_done (hstep _)
  · have h := step_more (hstep (sc.retokenize 0))
    have hlt := h.energy_lt hc hforward
    obtain ⟨x, hx, hend⟩ := scan_ends hflat hforward (h.nested hc)
    refine ⟨x, hx, fun fuel hfuel => ?_⟩
    obtain ⟨fuel, rfl⟩ := Nat.exists_eq_add_of_lt hfuel
    rw [scan_of_more (hstep _)]
    exact hend _ (by omega)
termination_by c.energy sc.registry.refs line.size
decreasing_by exact hlt

end Run

end Scanner

/-- As many steps as a scan of a text of this size takes at most, with so many regions open. -/
def Registry.stepBound (r : Registry) (size depth : Nat) : Nat :=
  (2 * r.refs.length + 2) * (size + 2) + depth

theorem energy_lt_stepBound {r : Registry} {c : Cursor} {size depth : Nat}
    (hdepth : c.state.depth ≤ depth) : c.energy r.refs size < r.stepBound size depth := by
  have hle := unentered_le c.state r.refs c.pos
  have hmul := Nat.mul_le_mul_left (2 * r.refs.length + 2)
    (show size + 1 - c.pos + 1 ≤ size + 2 by omega)
  rw [Nat.mul_add, Nat.mul_one] at hmul
  unfold Cursor.energy Registry.stepBound
  omega

theorem Scanner.scanLine_ends {sc : Scanner} {root : RuleRef} {scope : String} {s : State}
    (hflat : sc.registry.FlatCaptures) (hforward : ∀ p, sc.registry.Uses p → p.Forward)
    (hs : s.Nested sc.registry root scope) (line : Array Char) (firstLine : Bool) :
    ∃ x, x ≠ .error .stepLimit ∧ ∀ fuel, sc.registry.stepBound line.size s.depth ≤ fuel →
      sc.scanLine fuel s line firstLine = x := by
  obtain ⟨x, hx, hwhile⟩ := steady_checkWhile hflat line s.regions.reverse (lineStart s firstLine)
  have hscan : ∀ fuel, sc.scanLine fuel s line firstLine = x >>= fun c => sc.scan fuel line c := by
    intro fuel
    rw [← hwhile (sc.retokenize fuel)]
    rfl
  rcases x with e | c
  · exact ⟨.error e, error_ne_stepLimit hx, fun fuel _ => hscan fuel⟩
  · obtain ⟨hd, hr⟩ := checkWhile_lineStart (hwhile (sc.retokenize 0))
    have hc := hs.of_suffix hd hr
    obtain ⟨y, hy, hend⟩ := scan_ends hflat hforward hc
    refine ⟨y, hy, fun fuel hfuel => (hscan fuel).trans (hend fuel ?_)⟩
    exact Nat.lt_of_lt_of_le (energy_lt_stepBound hr.length_le) hfuel

namespace Tokenizer

/-- If no capture is tokenized again and no pattern matches before the place of its search, the scan
of every line ends: from some number of steps on its outcome is the same, and never that more were
needed. -/
theorem scanLine_ends_of_reachable {r : Registry} {scope : String} {config : Config}
    {fresh t : Tokenizer} {s : State} (h : r.tokenizerWith scope config = .ok fresh)
    (hflat : r.FlatCaptures) (hforward : ∀ p, r.Uses p → p.Forward) (ht : fresh.History t)
    (hs : fresh.Reachable s) (line : List Char) (firstLine : Bool) :
    (∃ x, x ≠ .error .stepLimit ∧ ∀ fuel, r.stepBound (matchedLine line).size s.depth ≤ fuel →
      t.scanner.scanLine fuel s (matchedLine line) firstLine = x) ∧
    (r.stepBound (matchedLine line).size s.depth ≤ stepLimit →
      (t.tokenizeLine line s firstLine).1 ≠ .error .stepLimit) := by
  obtain ⟨g, hg, -⟩ := Registry.grammar_of_tokenizerWith h
  have hregistry : fresh.registry = r := (Registry.registry_of_tokenizerWith h).1
  have hnested := hs.nested h hg
  have hends : ∀ {t : Tokenizer}, fresh.History t → ∃ x, x ≠ .error .stepLimit ∧
      ∀ fuel, r.stepBound (matchedLine line).size s.depth ≤ fuel →
        t.scanner.scanLine fuel s (matchedLine line) firstLine = x := by
    intro t ht
    have hr : t.scanner.registry = r :=
      (congrArg Tokenizer.registry ht.forget_eq).trans hregistry
    rw [← hr] at hflat hforward hnested ⊢
    exact Scanner.scanLine_ends hflat hforward hnested (matchedLine line) firstLine
  refine ⟨hends ht, fun hlimit => ?_⟩
  obtain ⟨x, hx, hend⟩ := hends ht
  rw [t.tokenizeLine_fst]
  unfold lineTokens
  rw [hend stepLimit hlimit]
  rcases x with e | c
  · exact Scanner.error_ne_stepLimit hx
  · exact fun h => by cases h

end Tokenizer

/-! ## A grammar of matches without text -/

/-- No `\K` stands in the pattern of the rule or in the one that ends its regions, and the latter is
the same for all regions. -/
def Rule.keepFree (rule : Rule) : Bool :=
  rule.scanPattern?.all (!·.hasKeep) && rule.template?.all fun
    | .fixed p => !p.hasKeep
    | .perRegion _ => false

theorem Registry.forward_of_keepFree {r : Registry}
    (h : ∀ g ∈ r.grammars.toList, ∀ rule ∈ g.rules.toList, rule.keepFree = true) {p : Pattern}
    (hp : r.Uses p) : p.Forward := by
  have hrule : ∀ {ref : RuleRef} {rule : Rule}, r.rule? ref = some rule → rule.keepFree = true := by
    intro ref rule hr
    obtain ⟨g, hg, hrule⟩ := exists_grammar_of_rule hr
    exact h g (List.mem_of_getElem? hg) rule (List.mem_of_getElem? hrule)
  cases hp with
  | scan hr hp =>
    have hk := hrule hr
    simp only [Rule.keepFree, hp, Option.all_some, Bool.and_eq_true, Bool.not_eq_true'] at hk
    exact Pattern.forward_of_hasKeep hk.1
  | @template ref rule t line m p hr ht hp =>
    have hk := hrule hr
    cases t with
    | fixed q =>
      obtain rfl : q = p := Except.ok.inj hp
      simp only [Rule.keepFree, ht, Option.all_some, Bool.and_eq_true, Bool.not_eq_true'] at hk
      exact Pattern.forward_of_hasKeep hk.2
    | perRegion source => simp [Rule.keepFree, ht] at hk

/-- Regions, single rules and while regions that match without text, inside each other. -/
def zeroWidthGrammar : Descriptor :=
  { Descriptor.empty with
    scopeName := "source.zero"
    patterns := [
      { RuleSpec.empty with
        beginPattern := some "(?=a)"
        endPattern := some "(?=a)|$"
        patterns := some [{ RuleSpec.empty with reference := some "$self" }] },
      { RuleSpec.empty with matchPattern := some "(?=b)" },
      { RuleSpec.empty with
        beginPattern := some "(?=a|c)"
        whilePattern := some "(?=c)"
        patterns := some [{ RuleSpec.empty with reference := some "$self" }] }] }

def zeroWidthRegistry : Registry :=
  (Registry.empty.register [zeroWidthGrammar]).toOption.getD Registry.empty

namespace Tokenizer

/-- Scans with such rules end. -/
theorem scanLine_ends_without_text :
    ∃ fresh, zeroWidthRegistry.tokenizerWith "source.zero" .default = .ok fresh ∧
      fresh.initialState.depth = 0 ∧
      (∃ x, x ≠ .error .stepLimit ∧
        ∀ fuel, zeroWidthRegistry.stepBound (matchedLine "abcab".toList).size 0 ≤ fuel →
          fresh.scanner.scanLine fuel fresh.initialState (matchedLine "abcab".toList) true = x) ∧
      (fresh.tokenizeLine "abcab".toList fresh.initialState true).1 ≠ .error .stepLimit := by
  have hok : (zeroWidthRegistry.tokenizerWith "source.zero" .default).toOption.any (fun _ => true) =
      true := by decide +kernel
  have hflat : zeroWidthRegistry.FlatCaptures := by
    unfold Registry.FlatCaptures
    decide +kernel
  have hkeep : ∀ g ∈ zeroWidthRegistry.grammars.toList, ∀ rule ∈ g.rules.toList,
      rule.keepFree = true := by decide +kernel
  have hlimit : zeroWidthRegistry.stepBound (matchedLine "abcab".toList).size 0 ≤ stepLimit := by
    decide +kernel
  obtain ⟨fresh, h, -⟩ := exists_ok_of_any hok
  obtain ⟨hends, hline⟩ := scanLine_ends_of_reachable h hflat
    (fun p hp => Registry.forward_of_keepFree hkeep hp) .start .initial "abcab".toList true
  exact ⟨fresh, h, rfl, hends, hline hlimit⟩

end Tokenizer

end Scopelight
