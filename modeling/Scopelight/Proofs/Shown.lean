import Scopelight.Proofs.Coverage
import Scopelight.Proofs.Groups
import Scopelight.Proofs.Termination

/-!
# Matches that show in the output

Output once made is never taken back (`Step.begins`), so a match without captures shows in the
tokens of its line, from where the output had not come yet (`Scanner.mem_tokens_of_applied`). Where
no capture ends behind its match the output never gets ahead of the scan (`Step.caughtUp`), and then
all of the match shows. That is so if no lookahead takes groups (`capturesInside_of_behind`): a
capture inside a lookahead can end behind its match, and then it hides the matches that come after
it, up to its end.
-/

namespace Scopelight

open Text

/-! ## Output only grows -/

/-- The tokens of the first output begin those of the second one. -/
def Output.Begins (o o' : Output) : Prop := o.tokens <:+ o'.tokens

section Begins

variable {o o' : Output}

theorem begins_refl (o : Output) : o.Begins o := List.suffix_rfl

theorem Output.reached_produce (o : Output) (stop : Nat) (scopes : List String) :
    (o.produce stop scopes).reached = max o.reached stop := by
  unfold Output.produce
  split_ifs with hle
  · exact (Nat.max_eq_left hle).symm
  · exact (Nat.max_eq_right (Nat.le_of_not_le hle)).symm

theorem Output.mem_produce {stop : Nat} (h : o.reached < stop) (scopes : List String) :
    ⟨scopes, o.reached, stop⟩ ∈ (o.produce stop scopes).tokens := by
  unfold Output.produce
  rw [if_neg (Nat.not_le.2 h)]
  exact List.mem_cons_self

theorem Output.Begins.produce (h : o.Begins o') (stop : Nat) (scopes : List String) :
    o.Begins (o'.produce stop scopes) := by
  unfold Output.produce
  split_ifs
  · exact h
  · exact List.IsSuffix.trans h (List.suffix_cons _ _)

theorem Output.Begins.foldl_produce {α : Type} (as : List α) (stop : α → Nat)
    (scopes : α → List String) (h : o.Begins o') :
    o.Begins (as.foldl (fun o a => o.produce (stop a) (scopes a)) o') := by
  induction as generalizing o' with
  | nil => exact h
  | cons a as ih => exact ih (h.produce _ _)

theorem Output.Begins.closeCaptures {upTo : Nat} {open_ open₁ : List OpenCapture} {o₁ : Output}
    (h : o.Begins o') (hclose : closeCaptures upTo open_ o' = (open₁, o₁)) : o.Begins o₁ := by
  induction open_ generalizing o' with
  | nil =>
    cases hclose
    exact h
  | cons c cs ih =>
    unfold Scopelight.closeCaptures at hclose
    split_ifs at hclose
    · exact ih (h.produce _ _) hclose
    · cases hclose
      exact h

theorem GroupStep.begins {again : Retokenize} {s : State} {line : Array Char} {grammar : Nat}
    {m : Regex.Match} {firstLine : Bool} {n : Nat} {rule : CaptureRule}
    {open_ open₁ : List OpenCapture} {o₁ o₂ : Output}
    (h : GroupStep again s line grammar m firstLine n rule open_ o₁ open₁ o₂) (ho : o.Begins o₁) :
    o.Begins o₂ := by
  cases h with
  | absent => exact ho
  | unnamed hn hlt hclose => exact (ho.closeCaptures hclose).produce _ _
  | named hn hlt hclose => exact (ho.closeCaptures hclose).produce _ _
  | again hn hlt hclose hrule hpart =>
    exact ((ho.closeCaptures hclose).produce _ _).foldl_produce _ Token.stop Token.scopes

theorem emitCaptures_begins {again : Retokenize} {s : State} {line : Array Char} {grammar : Nat}
    {rules : CaptureRules} {m : Regex.Match} {firstLine : Bool} {o₁ : Output} (ho : o.Begins o')
    (h : emitCaptures again s line grammar rules m firstLine o' = .ok o₁) : o.Begins o₁ := by
  obtain ⟨open₁, o₂, hbegins, rfl⟩ := emitCaptures_ok (P := fun _ o' => o.Begins o')
    (fun _ _ _ _ _ _ _ hp hg => hg.begins hp) ho h
  exact hbegins.foldl_produce _ OpenCapture.stop OpenCapture.scopes

variable {sc : Scanner} {again : Retokenize} {line : Array Char} {c c' : Cursor}

theorem Step.begins (h : Step sc again line c c') : c.output.Begins c'.output := by
  have hout : ∀ {m : Regex.Match} {s : State} {grammar : Nat} {rules : CaptureRules} {o : Output}
      {scopes : List String},
      emitCaptures again s line grammar rules m c.firstLine
        (c.output.produce m.start c.state.scopes) = .ok o →
      c.output.Begins (o.produce m.stop scopes) :=
    fun hemit => (emitCaptures_begins ((begins_refl _).produce _ _) hemit).produce _ _
  cases h with
  | close _ _ _ _ ho => exact hout ho
  | closeDocument _ _ _ _ ho => exact hout ho
  | single _ _ ho => exact hout ho
  | skip => exact begins_refl _
  | opens _ _ _ _ _ ho _ => exact hout ho

theorem scan_begins {n : Nat} (h : sc.scan n line c = .ok c') : c.output.Begins c'.output := by
  obtain ⟨c₀, hc₀, rfl⟩ := Scanner.scan_ok (P := fun c' => c.output.Begins c'.output) n
    (fun _ _ _ _ hc h => List.IsSuffix.trans hc h.begins) (begins_refl _) h
  exact hc₀.produce _ _

end Begins

/-! ## Matches that are applied -/

namespace Scanner

/-- The scan of a line in a state comes to a cursor, and the rule's match comes next there. -/
structure Applies (sc : Scanner) (s : State) (line : Array Char) (firstLine : Bool) (c : Cursor)
    (ref : RuleRef) (m : Regex.Match) : Prop where
  visited : ∃ c₀ n, sc.checkWhile (sc.retokenize stepLimit) line s.regions.reverse
    (lineStart s firstLine) = .ok c₀ ∧ Visits sc line stepLimit c₀ n c
  found : sc.findNext c.state line c.pos ⟨c.firstLine, c.anchor⟩ = some ⟨.rule ref, m⟩

section Applied

variable {sc : Scanner} {again : Retokenize} {line : Array Char} {c c' c₁ c₂ : Cursor} {n k : Nat}
  {ref : RuleRef} {rule : MatchRule} {m : Regex.Match}

/-- A single rule without captures gives the text before its match the scopes of the state, and the
match those and its own. -/
theorem step_single (again : Retokenize)
    (hf : sc.findNext c.state line c.pos ⟨c.firstLine, c.anchor⟩ = some ⟨.rule ref, m⟩)
    (hr : sc.registry.rule? ref = some (.single rule)) (hcaptures : rule.captures = []) :
    ∃ pos firstLine, sc.step again line c = .ok (.more ⟨c.state, pos, firstLine, c.anchor,
      (c.output.produce m.start c.state.scopes).produce m.stop
        (c.state.scopes ++ expandName rule.name line m)⟩) := by
  rw [step_eq]
  rw [hf]
  simp only [applyRule, hr, hcaptures]
  exact ⟨_, _, rfl⟩

/-- The output that a scan ends with has the match, from where the output before had come. -/
theorem mem_tokens_of_applied {c₀ : Cursor} (hv : Visits sc line n c₀ k c)
    (hf : sc.findNext c.state line c.pos ⟨c.firstLine, c.anchor⟩ = some ⟨.rule ref, m⟩)
    (hr : sc.registry.rule? ref = some (.single rule)) (hcaptures : rule.captures = [])
    (hlt : max c.output.reached m.start < m.stop) (h : sc.scan n line c₀ = .ok c') :
    ⟨c.state.scopes ++ expandName rule.name line m, max c.output.reached m.start, m.stop⟩ ∈
      c'.output.tokens := by
  rw [hv.scan_eq] at h
  cases k with
  | zero => cases h
  | succ k =>
    obtain ⟨pos, firstLine, hstep⟩ := step_single (sc.retokenize k) hf hr hcaptures
    rw [scan_of_more hstep] at h
    refine (scan_begins h).subset ?_
    rw [← Output.reached_produce c.output m.start c.state.scopes] at hlt ⊢
    exact Output.mem_produce hlt _

end Applied

end Scanner

/-! ## Output that keeps up with the scan -/

namespace Regex

/-- No group that has a rule ends behind the match. -/
def Match.Outlasts (m : Match) (rules : CaptureRules) : Prop :=
  ∀ e ∈ rules, ∀ span, m.group? e.1 = some span → span.stop ≤ m.stop

end Regex

/-- The captures of the match by which a scan finds the rule. -/
def Rule.scanCaptures : Rule → CaptureRules
  | single r => r.captures
  | region r => r.openingCaptures
  | whileRegion r => r.openingCaptures
  | _ => []

theorem Rule.scanCaptures_of_template (rule : Rule) {t : EndTemplate}
    (h : rule.template? = some t) : rule.scanCaptures = rule.openingCaptures := by
  cases rule with
  | region r => rfl
  | whileRegion r => rfl
  | _ => cases h

/-- The captures of a match of the pattern that the template of the rule gives. -/
def Rule.templateCaptures : Rule → CaptureRules
  | region r => r.closingCaptures
  | whileRegion r => r.conditionCaptures
  | _ => []

/-- No capture of a rule ends behind the match that it is a capture of. -/
structure Registry.CapturesInside (r : Registry) : Prop where
  scan : ∀ {ref rule p line pos a m}, r.rule? ref = some rule → rule.scanPattern? = some p →
    p.search line pos a = some m → m.Outlasts rule.scanCaptures
  template : ∀ {ref rule t opened m₀ p line pos a m}, r.rule? ref = some rule →
    rule.template? = some t → t.instantiate opened m₀ = .ok p → p.search line pos a = some m →
    m.Outlasts rule.templateCaptures

/-- The captures of the rule are those of patterns in which no lookahead takes groups, and the
pattern that ends its regions is the same for all of them if it has captures. -/
def Rule.capturesBehind (rule : Rule) : Bool :=
  (rule.scanCaptures.isEmpty || rule.scanPattern?.all (·.behind)) &&
    (rule.templateCaptures.isEmpty || rule.template?.all fun
      | .fixed p => p.behind
      | .perRegion _ => false)

theorem outlasts_of_search {rules : CaptureRules} {p : Pattern} {line : Array Char} {pos : Nat}
    {a : Anchors} {m : Regex.Match} (h : rules = [] ∨ p.behind = true)
    (hm : p.search line pos a = some m) : m.Outlasts rules := by
  intro e he span hspan
  rcases h with rfl | hp
  · cases he
  · exact Pattern.search_inside hp hm hspan

theorem Registry.capturesInside_of_behind {r : Registry}
    (h : ∀ g ∈ r.grammars.toList, ∀ rule ∈ g.rules.toList, rule.capturesBehind = true) :
    r.CapturesInside := by
  have hrule : ∀ {ref : RuleRef} {rule : Rule}, r.rule? ref = some rule →
      rule.capturesBehind = true := by
    intro ref rule hr
    obtain ⟨g, hg, hrule⟩ := exists_grammar_of_rule hr
    exact h g (List.mem_of_getElem? hg) rule (List.mem_of_getElem? hrule)
  constructor
  · intro ref rule p line pos a m hr hp hm
    have hbehind := hrule hr
    simp only [Rule.capturesBehind, hp, Option.all_some, Bool.and_eq_true, Bool.or_eq_true,
      List.isEmpty_iff] at hbehind
    exact outlasts_of_search hbehind.1 hm
  · intro ref rule t opened m₀ p line pos a m hr ht hp hm
    have hbehind := hrule hr
    simp only [Rule.capturesBehind, ht, Option.all_some, Bool.and_eq_true, Bool.or_eq_true,
      List.isEmpty_iff] at hbehind
    cases t with
    | fixed q =>
      obtain rfl : q = p := Except.ok.inj hp
      exact outlasts_of_search hbehind.2 hm
    | perRegion source =>
      exact outlasts_of_search (.inl (hbehind.2.resolve_right Bool.false_ne_true)) hm

section Reached

variable {bound : Nat} {o o' : Output}

theorem produce_reached_le (h : o.reached ≤ bound) {stop : Nat} (hstop : stop ≤ bound)
    (scopes : List String) : (o.produce stop scopes).reached ≤ bound := by
  rw [Output.reached_produce]
  omega

theorem foldl_produce_reached_le {α : Type} {as : List α} {stop : α → Nat}
    (scopes : α → List String) (h : o.reached ≤ bound) (hstop : ∀ a ∈ as, stop a ≤ bound) :
    (as.foldl (fun o a => o.produce (stop a) (scopes a)) o).reached ≤ bound :=
  List.foldlRecOn (motive := fun o : Output => o.reached ≤ bound) as _ h
    fun _ ho a ha => produce_reached_le ho (hstop a ha) _

theorem closeCaptures_reached_le {upTo : Nat} {open_ open₁ : List OpenCapture} {o₁ : Output}
    (h : closeCaptures upTo open_ o = (open₁, o₁)) (hopen : ∀ c ∈ open_, c.stop ≤ bound)
    (ho : o.reached ≤ bound) : (∀ c ∈ open₁, c.stop ≤ bound) ∧ o₁.reached ≤ bound := by
  induction open_ generalizing o with
  | nil =>
    cases h
    exact ⟨hopen, ho⟩
  | cons c cs ih =>
    have htail : ∀ d ∈ cs, d.stop ≤ bound := fun d hd => hopen d (List.mem_cons_of_mem c hd)
    unfold closeCaptures at h
    split_ifs at h
    · exact ih h htail (produce_reached_le ho (hopen c List.mem_cons_self) _)
    · cases h
      exact ⟨hopen, ho⟩

variable {scope : String} {start : Nat} {again : Retokenize} {s : State} {line : Array Char}
  {grammar : Nat} {m : Regex.Match} {firstLine : Bool} {rules : CaptureRules}
  {open_ open₁ : List OpenCapture} {n : Nat} {rule : CaptureRule}

theorem GroupStep.reached_le
    (h : GroupStep again s line grammar m firstLine n rule open_ o open₁ o')
    (hagain : again.Covers scope) (hs : s.Below scope) (hm : m.Within line.size)
    (hbelow : OpenBelow scope line.size open_) (hcovers : o.Covers scope start line.size)
    (hgroup : ∀ span, m.group? n = some span → span.stop ≤ bound)
    (hopen : ∀ c ∈ open_, c.stop ≤ bound) (ho : o.reached ≤ bound) :
    (∀ c ∈ open₁, c.stop ≤ bound) ∧ o'.reached ≤ bound := by
  cases h with
  | absent => exact ⟨hopen, ho⟩
  | unnamed hn hlt hclose =>
    have hstop := hgroup _ hn
    obtain ⟨hopen, ho⟩ := closeCaptures_reached_le hclose hopen ho
    exact ⟨hopen, produce_reached_le ho (by omega) _⟩
  | named hn hlt hclose =>
    have hstop := hgroup _ hn
    obtain ⟨hopen, ho⟩ := closeCaptures_reached_le hclose hopen ho
    exact ⟨List.forall_mem_cons.2 ⟨hstop, hopen⟩, produce_reached_le ho (by omega) _⟩
  | again hn hlt hclose hrule hpart =>
    have hstop := hgroup _ hn
    obtain ⟨hopen, ho⟩ := closeCaptures_reached_le hclose hopen ho
    obtain ⟨hbelow, -⟩ := closeCaptures_covers hclose hbelow hcovers
    have hp := hagain.capture hs hm hbelow hn hlt hpart
    refine ⟨hopen, foldl_produce_reached_le _ (produce_reached_le ho (by omega) _) ?_⟩
    intro t ht
    exact Nat.le_trans (hp.stop_le (List.mem_reverse.1 ht)) hstop

theorem emitCaptures_reached_le (hagain : again.Covers scope) (hs : s.Below scope)
    (hm : m.Within line.size) (hcovers : o.Covers scope start line.size)
    (hinside : m.Outlasts rules) (ho : o.reached ≤ m.stop)
    (h : emitCaptures again s line grammar rules m firstLine o = .ok o') :
    o'.reached ≤ m.stop := by
  obtain ⟨open₁, o₁, ⟨-, hopen, ho₁⟩, rfl⟩ := emitCaptures_ok
    (P := fun open_ o => (OpenBelow scope line.size open_ ∧ o.Covers scope start line.size) ∧
      (∀ c ∈ open_, c.stop ≤ m.stop) ∧ o.reached ≤ m.stop)
    (fun n rule hrule open₁ o₁ open₂ o₂ ⟨⟨hbelow, hcovers⟩, hopen, ho⟩ hg =>
      ⟨hg.covers hagain hs hm hbelow hcovers,
        hg.reached_le hagain hs hm hbelow hcovers (hinside _ hrule) hopen ho⟩)
    ⟨⟨fun c hc => by simp at hc, hcovers⟩, fun c hc => by simp at hc, ho⟩ h
  exact foldl_produce_reached_le _ ho₁ hopen

end Reached

section Step

variable {sc : Scanner} {again : Retokenize} {line : Array Char} {scope : String} {start : Nat}
  {root : RuleRef} {c c' : Cursor}

/-- A step takes the output no further than the scan. -/
theorem Step.caughtUp (h : Step sc again line c c') (hagain : again.Covers scope)
    (hcovers : c.Covers scope start line.size) (hc : c.state.Nested sc.registry root scope)
    (hforward : ∀ p, sc.registry.Uses p → p.Forward) (hinside : sc.registry.CapturesInside)
    (hreached : c.output.reached ≤ c.pos) : c'.output.reached ≤ c'.pos := by
  have hout : ∀ {p : Pattern} {m : Regex.Match} {s : State} {grammar : Nat} {rules : CaptureRules}
      {o : Output} {scopes : List String}, sc.registry.Uses p →
      p.search line c.pos ⟨c.firstLine, c.anchor⟩ = some m → s.Below scope →
      m.Outlasts rules → emitCaptures again s line grammar rules m c.firstLine
        (c.output.produce m.start c.state.scopes) = .ok o →
      m.start ≤ m.stop ∧ (o.produce m.stop scopes).reached ≤ m.stop := by
    intro p m s grammar rules o scopes hp hm hs hrules hemit
    obtain ⟨hle, hstop⟩ := Pattern.search_whole hm
    have hstart := hforward p hp _ _ _ _ hm
    have hbefore := hcovers.output.produce (Nat.le_trans hle hstop) hcovers.state.scopes
    have ho := emitCaptures_reached_le hagain hs (Pattern.search_within hm) hbefore hrules
      (produce_reached_le (by omega) hle _) hemit
    exact ⟨hle, produce_reached_le ho (Nat.le_refl _) _⟩
  cases h with
  | @close f fs r p m o hregions hr he hm hemit =>
    obtain ⟨⟨rule, t, opened, m₀, q, hr', ht, hq, he'⟩, -⟩ := hc.opened f (by simp [hregions])
    obtain rfl : p = q := Option.some.inj (he.symm.trans he')
    obtain rfl : rule = .region r := Option.some.inj (hr'.symm.trans hr)
    obtain ⟨-, hclosing⟩ := hcovers.state.close hregions
    obtain ⟨hle, hreached⟩ := hout (.template hr' ht hq) hm hclosing
      (hinside.template hr' ht hq hm) hemit
    refine Nat.le_trans hreached ?_
    dsimp only
    split_ifs <;> omega
  | closeDocument hs hr he hm ho =>
    have := hc.ending
    rw [hs] at this
    rw [this] at he
    cases he
  | @single ref r m o hr hm hemit =>
    have hframe := below_openFrame hcovers.state line ref (.single r) m
    obtain ⟨hle, hreached⟩ := hout (.scan hr rfl) hm (hcovers.state.push hframe)
      (hinside.scan hr rfl hm) hemit
    refine Nat.le_trans hreached ?_
    dsimp only
    split_ifs <;> omega
  | @skip ref rule p m hr hp hm hempty hentered =>
    have hstart := hforward p (.scan hr hp) _ _ _ _ hm
    dsimp only
    omega
  | @opens ref rule t p q m o hr ht hp hm hnew hemit hq =>
    have hframe := below_openFrame hcovers.state line ref rule m
    have hrules := hinside.scan hr hp hm
    rw [rule.scanCaptures_of_template ht] at hrules
    exact (hout (.scan hr hp) hm (hcovers.state.push hframe) hrules hemit).2

theorem WhileStep.caughtUp {f : Frame} (h : WhileStep sc again line f c c')
    (hagain : again.Covers scope) (hf : f.Below scope) (hopened : f.Opened sc.registry)
    (hcovers : c.Covers scope start line.size) (hinside : sc.registry.CapturesInside)
    (hreached : c.output.reached ≤ c.pos) : c'.output.reached ≤ c'.pos := by
  cases h with
  | unconditional => exact hreached
  | @holds r p m o hr he hm hemit =>
    obtain ⟨⟨rule, t, opened, m₀, q, hr', ht, hq, he'⟩, -⟩ := hopened
    obtain rfl : p = q := Option.some.inj (he.symm.trans he')
    obtain rfl : rule = .whileRegion r := Option.some.inj (hr'.symm.trans hr)
    obtain ⟨hm, hstart⟩ := Pattern.search_of_matchAt hm
    obtain ⟨hle, hstop⟩ := Pattern.search_whole hm
    have hbefore := hcovers.output.produce (Nat.le_trans hle hstop) hf.content
    have ho := emitCaptures_reached_le hagain (hcovers.state.push hf) (Pattern.search_within hm)
      hbefore (hinside.template hr' ht hq hm) (produce_reached_le (by omega) hle _) hemit
    have hout := produce_reached_le ho (Nat.le_refl _) f.contentScopes
    split_ifs
    · exact hout
    · exact Nat.le_trans hout (by dsimp only; omega)

end Step

namespace Tokenizer

section Shown

variable {r : Registry} {scope : String} {config : Config} {fresh t : Tokenizer} {s next : State}
  {line : List Char} {firstLine : Bool} {tokens : List Token} {c : Cursor} {ref : RuleRef}
  {rule : MatchRule} {m : Regex.Match}

/-- Where captures end inside their matches, the output never gets ahead of the scan of a line. -/
theorem reached_le_of_visited {sc : Scanner} {root : RuleRef} {text : Array Char} {c₀ : Cursor}
    {n k : Nat} (hs : s.Nested sc.registry root scope) (hbelow : s.Below scope)
    (hforward : ∀ p, sc.registry.Uses p → p.Forward) (hinside : sc.registry.CapturesInside)
    (hwhile : sc.checkWhile (sc.retokenize stepLimit) text s.regions.reverse
      (Scanner.lineStart s firstLine) = .ok c₀)
    (hv : sc.Visits text n c₀ k c) : c.output.reached ≤ c.pos := by
  have hagain := retokenize_covers sc scope
  obtain ⟨hcovers, hreached⟩ := Scanner.checkWhile_ok
    (P := fun c => c.Covers scope 0 text.size ∧ c.output.reached ≤ c.pos)
    (fun f hf c c' hc hstep => by
      rw [List.mem_reverse] at hf
      have hf' := hbelow f (List.mem_append_left _ hf)
      exact ⟨hstep.covers (hagain _) hf' hc.1,
        hstep.caughtUp (hagain _) hf' (hs.opened f hf) hc.1 hinside hc.2⟩)
    ⟨covers_lineStart hbelow firstLine, Nat.le_refl _⟩ hwhile
  obtain ⟨hd, hr⟩ := Scanner.checkWhile_lineStart hwhile
  refine (hv.rec_step (P := fun c => c.Covers scope 0 text.size ∧
    c.state.Nested sc.registry root scope ∧ c.output.reached ≤ c.pos) ?_
    ⟨hcovers, hs.of_suffix hd hr, hreached⟩).2.2
  intro fuel _ c c' hc hstep
  exact ⟨hstep.covers (hagain fuel) hc.1, hstep.nested hc.2.1,
    hstep.caughtUp (hagain fuel) hc.1 hc.2.1 hforward hinside hc.2.2⟩

/-- A match of a single rule without captures shows in the tokens of its line, with the scopes of
the state and those of the rule: all of it that earlier matches of the line have left, and that is
all of it if no pattern matches before the place of its search and no capture ends behind its
match. -/
theorem single_shown (h : r.tokenizerWith scope config = .ok fresh) (ht : fresh.History t)
    (hs : fresh.Reachable s)
    (hline : (t.tokenizeLine line s firstLine).1 = .ok (tokens, next))
    (ha : t.scanner.Applies s (matchedLine line) firstLine c ref m)
    (hr : r.rule? ref = some (.single rule)) (hcaptures : rule.captures = []) :
    (∀ b, realOffset line (max c.output.reached m.start) ≤ b → b < realOffset line m.stop →
      ∃ token ∈ tokens, token.start ≤ b ∧ b < token.stop ∧
        token.scopes = c.state.scopes ++ expandName rule.name (matchedLine line) m) ∧
    ((∀ p, r.Uses p → p.Forward) → r.CapturesInside → c.output.reached ≤ m.start) := by
  have hf := Registry.truthful_of_tokenizerWith h
  have hscanner : t.scanner = fresh.scanner := by
    rw [(ht.truthful hf).scanner_eq, ht.forget_eq, ← hf.scanner_eq]
  obtain ⟨rfl, -⟩ := Registry.registry_of_tokenizerWith h
  rw [hscanner] at ha
  obtain ⟨⟨c₀, n, hwhile, hv⟩, hfound⟩ := ha
  constructor
  · intro b hstart hstop
    rw [ht.tokenizeLine_fst hf] at hline
    obtain ⟨c', hscanLine, hline⟩ := bind_ok_iff.1 hline
    cases hline
    obtain ⟨c₁, hwhile', hscan⟩ := Scanner.scanLine_ok hscanLine
    obtain rfl : c₀ = c₁ := Except.ok.inj (hwhile.symm.trans hwhile')
    have hlt : max c.output.reached m.start < m.stop := by
      by_contra hle
      have := realOffset_mono line (Nat.not_lt.1 hle)
      omega
    have hmem := Scanner.mem_tokens_of_applied hv hfound hr hcaptures hlt hscan
    refine ⟨⟨_, realOffset line (max c.output.reached m.start), realOffset line m.stop⟩, ?_, hstart,
      hstop, rfl⟩
    refine List.mem_filter.2 ⟨List.mem_map.2 ⟨_, List.mem_reverse.2 hmem, rfl⟩, ?_⟩
    simp only [decide_eq_true_eq]
    omega
  · intro hforward hinside
    obtain ⟨g, hg, -⟩ := Registry.grammar_of_tokenizerWith h
    have hreached := reached_le_of_visited (hs.nested h hg) (hs.state_below h) hforward hinside
      hwhile hv
    obtain ⟨rule', p, hr', hp, hm⟩ := Scanner.findNext_rule hfound
    exact Nat.le_trans hreached (hforward p (.scan hr' hp) _ _ _ _ hm)

end Shown

end Tokenizer

/-! ## Small grammars -/

/-- The cursor after the first step of a scan, and what is found there. -/
def Scanner.second? (sc : Scanner) (line : Array Char) (c : Cursor) : Option (Cursor × Found) :=
  match sc.step (sc.retokenize (stepLimit - 1)) line c with
  | .ok (.more c) =>
    (sc.findNext c.state line c.pos ⟨c.firstLine, c.anchor⟩).map fun found => (c, found)
  | _ => none

theorem Scanner.applies_second {sc : Scanner} {s : State} {line : Array Char} {firstLine : Bool}
    {c : Cursor} {ref : RuleRef} {m : Regex.Match} (hs : s.regions = [])
    (h : sc.second? line (lineStart s firstLine) = some (c, ⟨.rule ref, m⟩)) :
    sc.Applies s line firstLine c ref m := by
  have hlimit : stepLimit = stepLimit - 1 + 1 := by decide
  unfold second? at h
  split at h
  · rename_i c₁ hstep
    obtain ⟨found, hfound, heq⟩ := Option.map_eq_some_iff.1 h
    cases heq
    refine ⟨⟨lineStart s firstLine, stepLimit - 1, by rw [hs]; rfl, ?_⟩, hfound⟩
    rw [hlimit]
    exact .next hstep (.here _ _)
  · cases h

/-- Pairs whose parts are captures, and digits. -/
def pairsGrammar : Descriptor :=
  { Descriptor.empty with
    scopeName := "source.pairs"
    patterns := [
      { RuleSpec.empty with
        matchPattern := some "(\\w)=(\\w+)"
        captures := some [
          ("1", { RuleSpec.empty with name := some "key" }),
          ("2", { RuleSpec.empty with name := some "value" })] },
      { RuleSpec.empty with
        name := some "digit"
        matchPattern := some "\\d" }] }

def pairsRegistry : Registry :=
  (Registry.empty.register [pairsGrammar]).toOption.getD Registry.empty

/-- A rule with a capture in a lookahead, and rules for what the lookahead sees. -/
def aheadGrammar : Descriptor :=
  { Descriptor.empty with
    scopeName := "source.ahead"
    patterns := [
      { RuleSpec.empty with
        name := some "letter.a"
        matchPattern := some "a(?=b(c))"
        captures := some [("1", { RuleSpec.empty with name := some "ahead" })] },
      { RuleSpec.empty with
        name := some "letter.b"
        matchPattern := some "b" },
      { RuleSpec.empty with
        name := some "letter.c"
        matchPattern := some "c" }] }

def aheadRegistry : Registry :=
  (Registry.empty.register [aheadGrammar]).toOption.getD Registry.empty

/-- The rule takes a match and has no captures. -/
def Rule.plain? : Rule → Option MatchRule
  | single r => if r.captures.isEmpty then some r else none
  | _ => none

theorem Rule.single_of_plain {rule : Rule} {r : MatchRule} (h : rule.plain? = some r) :
    rule = .single r ∧ r.captures = [] := by
  cases rule with
  | single r' =>
    simp only [plain?, List.isEmpty_iff] at h
    split_ifs at h with hcaptures
    cases h
    exact ⟨rfl, hcaptures⟩
  | _ => cases h

namespace Tokenizer

/-- The digit behind a pair shows. -/
theorem digit_shown_after_pair :
    ∃ fresh tokens next c ref rule m,
      pairsRegistry.tokenizerWith "source.pairs" .default = .ok fresh ∧
      (fresh.tokenizeLine "a=b1 2".toList fresh.initialState true).1 = .ok (tokens, next) ∧
      fresh.scanner.Applies fresh.initialState (matchedLine "a=b1 2".toList) true c ref m ∧
      pairsRegistry.rule? ref = some (.single rule) ∧ c.output.reached ≤ m.start ∧
      ∃ token ∈ tokens, token.start ≤ 5 ∧ 5 < token.stop ∧
        token.scopes = c.state.scopes ++ expandName rule.name (matchedLine "a=b1 2".toList) m := by
  have hrun : (pairsRegistry.tokenizerWith "source.pairs" .default).toOption.any (fun t =>
      t.initialState.regions.isEmpty &&
      ((t.tokenizeLine "a=b1 2".toList t.initialState true).1.toOption.any (fun _ => true) &&
      (t.scanner.second? (matchedLine "a=b1 2".toList)
        (Scanner.lineStart t.initialState true)).any fun (c, found) =>
          found.candidate == .rule ⟨0, 1⟩ && (max c.output.reached found.hit.start == 5 &&
            found.hit.stop == 6))) = true := by decide +kernel
  have hplain : ((pairsRegistry.rule? ⟨0, 1⟩).bind Rule.plain?).isSome = true := by decide +kernel
  have hkeep : ∀ g ∈ pairsRegistry.grammars.toList, ∀ rule ∈ g.rules.toList,
      rule.keepFree = true := by decide +kernel
  have hbehind : ∀ g ∈ pairsRegistry.grammars.toList, ∀ rule ∈ g.rules.toList,
      rule.capturesBehind = true := by decide +kernel
  obtain ⟨fresh, h, hrun⟩ := exists_ok_of_any hrun
  simp only [Bool.and_eq_true, List.isEmpty_iff] at hrun
  obtain ⟨hregions, hline, hsecond⟩ := hrun
  obtain ⟨⟨tokens, next⟩, hline, -⟩ := exists_ok_of_any hline
  obtain ⟨⟨c, candidate, m⟩, hsecond, hfound⟩ := (Option.any_eq_true _ _).1 hsecond
  simp only [Bool.and_eq_true, beq_iff_eq] at hfound
  obtain ⟨rfl, hstart, hstop⟩ := hfound
  obtain ⟨rule, hrule⟩ := Option.isSome_iff_exists.1 hplain
  obtain ⟨rule', hr, hrule⟩ := Option.bind_eq_some_iff.1 hrule
  obtain ⟨rfl, hcaptures⟩ := Rule.single_of_plain hrule
  have ha := Scanner.applies_second hregions hsecond
  obtain ⟨hshown, hreached⟩ := single_shown h .start .initial hline ha hr hcaptures
  refine ⟨fresh, tokens, next, c, _, rule, m, h, hline, ha, hr, hreached
    (fun p hp => Registry.forward_of_keepFree hkeep hp)
    (Registry.capturesInside_of_behind hbehind), hshown 5 ?_ ?_⟩
  · rw [hstart]
    decide
  · rw [hstop]
    decide

/-- The letter that a lookahead has seen does not show: its match is applied, and the text keeps the
scopes that it got as what lies before the capture. -/
theorem capture_ahead_hides_match :
    ∃ fresh tokens next c ref rule m,
      aheadRegistry.tokenizerWith "source.ahead" .default = .ok fresh ∧
      (fresh.tokenizeLine "abc".toList fresh.initialState true).1 = .ok (tokens, next) ∧
      fresh.scanner.Applies fresh.initialState (matchedLine "abc".toList) true c ref m ∧
      aheadRegistry.rule? ref = some (.single rule) ∧ rule.captures = [] ∧
      realOffset "abc".toList m.start = 1 ∧ realOffset "abc".toList m.stop = 2 ∧
      ∀ token ∈ tokens, token.start ≤ 1 → 1 < token.stop →
        token.scopes ≠ c.state.scopes ++ expandName rule.name (matchedLine "abc".toList) m := by
  have hrun : (aheadRegistry.tokenizerWith "source.ahead" .default).toOption.any (fun t =>
      t.initialState.regions.isEmpty &&
      ((t.tokenizeLine "abc".toList t.initialState true).1.toOption.any (fun p =>
        p.1 == [⟨["source.ahead", "letter.a"], 0, 2⟩,
          ⟨["source.ahead", "letter.a", "ahead"], 2, 3⟩]) &&
      (t.scanner.second? (matchedLine "abc".toList)
        (Scanner.lineStart t.initialState true)).any fun (c, found) =>
          found.candidate == .rule ⟨0, 1⟩ && (found.hit.start == 1 && (found.hit.stop == 2 &&
            ((aheadRegistry.rule? ⟨0, 1⟩).bind Rule.plain?).any fun rule =>
              c.state.scopes ++ expandName rule.name (matchedLine "abc".toList) found.hit ==
                ["source.ahead", "letter.b"])))) = true := by decide +kernel
  obtain ⟨fresh, h, hrun⟩ := exists_ok_of_any hrun
  simp only [Bool.and_eq_true, List.isEmpty_iff] at hrun
  obtain ⟨hregions, hline, hsecond⟩ := hrun
  obtain ⟨⟨tokens, next⟩, hline, htokens⟩ := exists_ok_of_any hline
  obtain ⟨⟨c, candidate, m⟩, hsecond, hfound⟩ := (Option.any_eq_true _ _).1 hsecond
  simp only [Bool.and_eq_true, beq_iff_eq] at hfound htokens
  obtain ⟨rfl, hstart, hstop, hrule⟩ := hfound
  obtain ⟨rule, hrule, hscopes⟩ := (Option.any_eq_true _ _).1 hrule
  obtain ⟨rule', hr, hrule⟩ := Option.bind_eq_some_iff.1 hrule
  obtain ⟨rfl, hcaptures⟩ := Rule.single_of_plain hrule
  refine ⟨fresh, tokens, next, c, _, rule, m, h, hline, Scanner.applies_second hregions hsecond, hr,
    hcaptures, ?_, ?_, ?_⟩
  · rw [hstart]
    decide
  · rw [hstop]
    decide
  · rw [eq_of_beq hscopes, htokens]
    decide

end Tokenizer

end Scopelight
