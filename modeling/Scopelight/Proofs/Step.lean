import Scopelight.Proofs.Outcome
import Scopelight.Tokenizer.Scan

/-!
# What a step does

A match that is chosen is a match of a candidate (`findNext_mem`), and applying it does one of five
things (`Step`): it closes the innermost region, gives the document its closing scopes, opens a
region, takes a single rule, or moves on where a region was opened already. The invariants of a scan
follow from these cases, by one induction over the cursors that it passes (`Visits.rec_step`), and
never open the definition of a step again.
-/

namespace Scopelight

namespace Scanner

/-! ## The match that is applied -/

section Find

variable {line : Array Char} {origin : Nat} {a : Anchors}

theorem earliest_mem {f : Found} :
    ∀ {cs : List (Candidate × Pattern)} {best : Option Found},
      earliest line origin a best cs = some f →
      best = some f ∨ ∃ p, (f.candidate, p) ∈ cs ∧ p.search line origin a = some f.hit
  | [], best, h => .inl h
  | (candidate, p) :: rest, best, h => by
    simp only [earliest] at h
    split at h
    · exact .inl h
    · split at h
      · rename_i m hm
        split at h
        · rcases earliest_mem h with h | ⟨q, hq, hs⟩
          · obtain rfl := Option.some.inj h
            exact .inr ⟨p, List.mem_cons_self, hm⟩
          · exact .inr ⟨q, List.mem_cons_of_mem _ hq, hs⟩
        · rcases earliest_mem h with h | ⟨q, hq, hs⟩
          · exact .inl h
          · exact .inr ⟨q, List.mem_cons_of_mem _ hq, hs⟩
      · rcases earliest_mem h with h | ⟨q, hq, hs⟩
        · exact .inl h
        · exact .inr ⟨q, List.mem_cons_of_mem _ hq, hs⟩

theorem earliestInjected_mem {i : Precedence × Found} :
    ∀ {cs : List (Precedence × Candidate × Pattern)} {best : Option (Precedence × Found)},
      earliestInjected line origin a best cs = some i →
      best = some i ∨ ∃ p, (i.1, i.2.candidate, p) ∈ cs ∧ p.search line origin a = some i.2.hit
  | [], best, h => .inl h
  | (precedence, candidate, p) :: rest, best, h => by
    simp only [earliestInjected] at h
    split at h
    · rename_i m hm
      split at h
      · rcases earliestInjected_mem h with h | ⟨q, hq, hs⟩
        · obtain rfl := Option.some.inj h
          exact .inr ⟨p, List.mem_cons_self, hm⟩
        · exact .inr ⟨q, List.mem_cons_of_mem _ hq, hs⟩
      · rcases earliestInjected_mem h with h | ⟨q, hq, hs⟩
        · exact .inl h
        · exact .inr ⟨q, List.mem_cons_of_mem _ hq, hs⟩
    · rcases earliestInjected_mem h with h | ⟨q, hq, hs⟩
      · exact .inl h
      · exact .inr ⟨q, List.mem_cons_of_mem _ hq, hs⟩

theorem choose_eq_some {best : Option Found} {i : Option (Precedence × Found)} {f : Found}
    (h : choose best i = some f) : best = some f ∨ ∃ precedence, i = some (precedence, f) := by
  unfold choose at h
  split at h
  · exact .inl h
  · obtain rfl := Option.some.inj h
    exact .inr ⟨_, rfl⟩
  · split_ifs at h
    · obtain rfl := Option.some.inj h
      exact .inr ⟨_, rfl⟩
    · exact .inl h

variable {sc : Scanner} {s : State}

theorem mem_scannable {candidate : Candidate} {p : Pattern} {refs : List RuleRef}
    (h : (candidate, p) ∈ sc.scannable refs) :
    ∃ ref ∈ refs, ∃ rule, candidate = .rule ref ∧ sc.registry.rule? ref = some rule ∧
      rule.scanPattern? = some p := by
  unfold scannable at h
  obtain ⟨ref, href, hp⟩ := List.mem_filterMap.1 h
  obtain ⟨q, hq, he⟩ := Option.map_eq_some_iff.1 hp
  obtain ⟨rule, hrule, hs⟩ := Option.bind_eq_some_iff.1 hq
  simp only [Prod.mk.injEq] at he
  exact ⟨ref, href, rule, he.1.symm, hrule, he.2 ▸ hs⟩

theorem mem_endCandidate {candidate : Candidate} {p : Pattern}
    (h : (candidate, p) ∈ sc.endCandidate s) :
    ∃ r, candidate = .ending ∧ sc.registry.rule? s.top.rule = some (.region r) ∧
      s.top.ending = some p := by
  unfold endCandidate at h
  split at h
  · rename_i r hr
    rcases he : s.top.ending with _ | q <;> rw [he] at h
    · simp at h
    · simp only [Option.map_some, Option.toList_some, List.mem_singleton, Prod.mk.injEq] at h
      exact ⟨r, h.1, hr, by rw [h.2]⟩
  · simp at h

theorem mem_regular {candidate : Candidate} {p : Pattern} (h : (candidate, p) ∈ sc.regular s) :
    (candidate, p) ∈ sc.endCandidate s ∨ (candidate, p) ∈ sc.scannable (sc.nested s.top.rule) := by
  simp only [regular] at h
  split_ifs at h <;> simp only [List.mem_append] at h
  · exact h.symm
  · exact h

theorem mem_injected {scopes : List String} {precedence : Precedence} {candidate : Candidate}
    {p : Pattern} (h : (precedence, candidate, p) ∈ sc.injected scopes) :
    ∃ refs, (candidate, p) ∈ sc.scannable refs := by
  unfold injected at h
  obtain ⟨⟨selector, refs⟩, -, hm⟩ := List.mem_flatMap.1 h
  simp only [] at hm
  split at hm
  · obtain ⟨cp, hcp, he⟩ := List.mem_map.1 hm
    simp only [Prod.mk.injEq] at he
    exact ⟨refs, he.2 ▸ hcp⟩
  · simp at hm

/-- What is found is a match of the innermost region's end pattern, or of a rule's pattern. -/
theorem findNext_mem {f : Found} (h : sc.findNext s line origin a = some f) :
    ∃ p, p.search line origin a = some f.hit ∧
      ((f.candidate, p) ∈ sc.endCandidate s ∨ ∃ refs, (f.candidate, p) ∈ sc.scannable refs) := by
  unfold findNext at h
  rcases choose_eq_some h with h | ⟨precedence, h⟩
  · rcases earliest_mem h with h | ⟨p, hp, hs⟩
    · cases h
    · exact ⟨p, hs, (mem_regular hp).imp_right fun h => ⟨_, h⟩⟩
  · rcases earliestInjected_mem h with h | ⟨p, hp, hs⟩
    · cases h
    · exact ⟨p, hs, .inr (mem_injected hp)⟩

theorem findNext_ending {m : Regex.Match} (h : sc.findNext s line origin a = some ⟨.ending, m⟩) :
    ∃ r p, sc.registry.rule? s.top.rule = some (.region r) ∧ s.top.ending = some p ∧
      p.search line origin a = some m := by
  obtain ⟨p, hs, hp | ⟨refs, hp⟩⟩ := findNext_mem h
  · obtain ⟨r, -, hr, he⟩ := mem_endCandidate hp
    exact ⟨r, p, hr, he, hs⟩
  · obtain ⟨ref, -, rule, hc, -⟩ := mem_scannable hp
    cases hc

theorem findNext_rule {ref : RuleRef} {m : Regex.Match}
    (h : sc.findNext s line origin a = some ⟨.rule ref, m⟩) :
    ∃ rule p, sc.registry.rule? ref = some rule ∧ rule.scanPattern? = some p ∧
      p.search line origin a = some m := by
  obtain ⟨p, hs, hp | ⟨refs, hp⟩⟩ := findNext_mem h
  · obtain ⟨r, hc, -⟩ := mem_endCandidate hp
    cases hc
  · obtain ⟨ref', -, rule, hc, hr, hpat⟩ := mem_scannable hp
    cases hc
    exact ⟨rule, p, hr, hpat, hs⟩

end Find

end Scanner

/-! ## Captures -/

/-- The scopes inside the innermost capture that is open, or those of the state. -/
def captureScopes (s : State) : List OpenCapture → List String
  | c :: _ => c.scopes
  | [] => s.scopes

/-- The frame in which a group is tokenized again. -/
def captureFrame (s : State) (line : Array Char) (grammar : Nat) (m : Regex.Match)
    (rule : CaptureRule) (patterns : RuleId) (open_ : List OpenCapture) (start : Nat) : Frame :=
  let nameScopes := captureScopes s open_ ++ expandName rule.name line m
  { rule := ⟨grammar, patterns⟩
    nameScopes
    contentScopes := nameScopes ++ expandName rule.contentName line m
    ending := none
    openedAtLineEnd := false
    anchor := none
    entered := some start }

/-- What a group of a match does to the captures that are open and to the output: nothing, or it
closes the captures that end before it, and then it is tokenized again or opened. -/
inductive GroupStep (again : Retokenize) (s : State) (line : Array Char) (grammar : Nat)
    (m : Regex.Match) (firstLine : Bool) (n : Nat) (rule : CaptureRule)
    (open_ : List OpenCapture) (o : Output) : List OpenCapture → Output → Prop
  | absent : GroupStep again s line grammar m firstLine n rule open_ o open_ o
  | unnamed {span : Regex.Span} {open₁ : List OpenCapture} {o₁ : Output}
      (hn : m.group? n = some span) (hlt : span.start < span.stop)
      (hclose : closeCaptures span.start open_ o = (open₁, o₁)) :
    GroupStep again s line grammar m firstLine n rule open_ o open₁
      (o₁.produce span.start (captureScopes s open₁))
  | named {span : Regex.Span} {open₁ : List OpenCapture} {o₁ : Output}
      (hn : m.group? n = some span) (hlt : span.start < span.stop)
      (hclose : closeCaptures span.start open_ o = (open₁, o₁)) :
    GroupStep again s line grammar m firstLine n rule open_ o
      (⟨captureScopes s open₁ ++ expandName rule.name line m, span.stop⟩ :: open₁)
      (o₁.produce span.start (captureScopes s open₁))
  | again {span : Regex.Span} {open₁ : List OpenCapture} {o₁ part : Output} {patterns : RuleId}
      (hn : m.group? n = some span) (hlt : span.start < span.stop)
      (hclose : closeCaptures span.start open_ o = (open₁, o₁))
      (hrule : rule.patterns = some patterns)
      (hpart : again (s.push (captureFrame s line grammar m rule patterns open₁ span.start))
        (line.extract 0 span.stop) span.start (firstLine && span.start == 0) = .ok part) :
    GroupStep again s line grammar m firstLine n rule open_ o open₁
      ((o₁.produce span.start (captureScopes s open₁)).absorb part)

section Captures

variable {again : Retokenize} {s : State} {line : Array Char} {grammar : Nat} {m : Regex.Match}
  {firstLine : Bool} {rules : CaptureRules} {open_ : List OpenCapture} {o o' : Output}

theorem emitGroups_cons {n : Nat} {rule : CaptureRule}
    (h : emitGroups again s line grammar m firstLine ((n, rule) :: rules) open_ o = .ok o') :
    ∃ open₁ o₁, GroupStep again s line grammar m firstLine n rule open_ o open₁ o₁ ∧
      emitGroups again s line grammar m firstLine rules open₁ o₁ = .ok o' := by
  simp only [emitGroups] at h
  split at h
  · exact ⟨_, _, .absent, h⟩
  rename_i span hn
  split_ifs at h with hempty
  · exact ⟨_, _, .absent, h⟩
  rcases hclose : closeCaptures span.start open_ o with ⟨open₁, o₁⟩
  rw [hclose] at h
  have hlt : span.start < span.stop := by omega
  split at h
  · rename_i patterns hrule
    obtain ⟨part, hpart, h⟩ := bind_ok_iff.1 h
    exact ⟨_, _, .again hn hlt hclose hrule hpart, h⟩
  · split at h
    · exact ⟨_, _, .unnamed hn hlt hclose, h⟩
    · exact ⟨_, _, .named hn hlt hclose, h⟩

/-- What every group keeps holds when all groups have had their turn; then the captures that are
still open are closed. -/
theorem emitCaptures_ok {P : List OpenCapture → Output → Prop}
    (hstep : ∀ n rule, (n, rule) ∈ rules → ∀ open₁ o₁ open₂ o₂, P open₁ o₁ →
      GroupStep again s line grammar m firstLine n rule open₁ o₁ open₂ o₂ → P open₂ o₂)
    (ho : P [] o) (h : emitCaptures again s line grammar rules m firstLine o = .ok o') :
    ∃ open₁ o₁, P open₁ o₁ ∧ o' = closeAll open₁ o₁ := by
  unfold emitCaptures at h
  generalize ([] : List OpenCapture) = open_ at h ho
  induction rules generalizing open_ o with
  | nil => exact ⟨open_, o, ho, (Except.ok.inj h).symm⟩
  | cons entry rest ih =>
    obtain ⟨open₁, o₁, hg, h⟩ := emitGroups_cons h
    exact ih (fun n rule hr => hstep n rule (List.mem_cons_of_mem entry hr)) open₁ h
      (hstep _ _ List.mem_cons_self _ _ _ _ ho hg)

end Captures

/-! ## The cases of a step -/

/-- The template of the pattern that ends a region, or has to match for it to go on. -/
def Rule.template? : Rule → Option EndTemplate
  | region r => some r.closing
  | whileRegion r => some r.condition
  | _ => none

/-- The captures of the match that opens a region. -/
def Rule.openingCaptures : Rule → CaptureRules
  | region r => r.openingCaptures
  | whileRegion r => r.openingCaptures
  | _ => []

/-- What applying a match does to a cursor. The output `o` has the tokens up to the match and those
of its captures. -/
inductive Step (sc : Scanner) (again : Retokenize) (line : Array Char) (c : Cursor) : Cursor → Prop
  | close {f : Frame} {fs : List Frame} {r : RegionRule} {p : Pattern} {m : Regex.Match}
      {o : Output} (hs : c.state.regions = f :: fs)
      (hr : sc.registry.rule? f.rule = some (.region r)) (he : f.ending = some p)
      (hm : p.search line c.pos ⟨c.firstLine, c.anchor⟩ = some m)
      (ho : emitCaptures again ⟨c.state.document, { f with contentScopes := f.nameScopes } :: fs⟩
        line f.rule.grammar r.closingCaptures m c.firstLine
        (c.output.produce m.start c.state.scopes) = .ok o) :
    Step sc again line c ⟨⟨c.state.document, fs⟩,
      if m.start = m.stop ∧ f.entered = some m.start then m.start + 1 else m.stop,
      c.firstLine && m.start == m.stop, f.anchor, o.produce m.stop f.nameScopes⟩
  | closeDocument {f : Frame} {r : RegionRule} {p : Pattern} {m : Regex.Match} {o : Output}
      (hs : c.state = ⟨f, []⟩) (hr : sc.registry.rule? f.rule = some (.region r))
      (he : f.ending = some p) (hm : p.search line c.pos ⟨c.firstLine, c.anchor⟩ = some m)
      (ho : emitCaptures again ⟨{ f with contentScopes := f.nameScopes }, []⟩
        line f.rule.grammar r.closingCaptures m c.firstLine
        (c.output.produce m.start c.state.scopes) = .ok o) :
    Step sc again line c ⟨⟨{ f with contentScopes := f.nameScopes }, []⟩, m.stop,
      c.firstLine && m.start == m.stop, c.anchor, o.produce m.stop f.nameScopes⟩
  | single {ref : RuleRef} {r : MatchRule} {m : Regex.Match} {o : Output}
      (hr : sc.registry.rule? ref = some (.single r))
      (hm : r.pattern.search line c.pos ⟨c.firstLine, c.anchor⟩ = some m)
      (ho : emitCaptures again (c.state.push (Scanner.openFrame c line ref (.single r) m)) line
        ref.grammar r.captures m c.firstLine (c.output.produce m.start c.state.scopes) = .ok o) :
    Step sc again line c ⟨c.state, if m.start = m.stop then m.start + 1 else m.stop,
      c.firstLine && m.start == m.stop, c.anchor,
      o.produce m.stop (Scanner.openFrame c line ref (.single r) m).nameScopes⟩
  | skip {ref : RuleRef} {rule : Rule} {p : Pattern} {m : Regex.Match}
      (hr : sc.registry.rule? ref = some rule) (hp : rule.scanPattern? = some p)
      (hm : p.search line c.pos ⟨c.firstLine, c.anchor⟩ = some m) (hempty : m.start = m.stop)
      (hentered : c.state.enteredAt ref m.start = true) :
    Step sc again line c { c with pos := m.start + 1 }
  | opens {ref : RuleRef} {rule : Rule} {t : EndTemplate} {p q : Pattern} {m : Regex.Match}
      {o : Output} (hr : sc.registry.rule? ref = some rule) (ht : rule.template? = some t)
      (hp : rule.scanPattern? = some p)
      (hm : p.search line c.pos ⟨c.firstLine, c.anchor⟩ = some m)
      (hnew : m.start = m.stop → c.state.enteredAt ref m.start = false)
      (ho : emitCaptures again (c.state.push (Scanner.openFrame c line ref rule m)) line
        ref.grammar rule.openingCaptures m c.firstLine
        (c.output.produce m.start c.state.scopes) = .ok o)
      (hq : t.instantiate line m = .ok q) :
    Step sc again line c ⟨c.state.push { Scanner.openFrame c line ref rule m with
        contentScopes := (Scanner.openFrame c line ref rule m).nameScopes ++
          expandName rule.contentName? line m
        ending := some q }, m.stop, c.firstLine && m.start == m.stop, some m.stop,
      o.produce m.stop (Scanner.openFrame c line ref rule m).nameScopes⟩

namespace Scanner

variable {sc : Scanner} {again : Retokenize} {line : Array Char} {c c' : Cursor}

theorem applyEnd_step {m : Regex.Match}
    (hf : sc.findNext c.state line c.pos ⟨c.firstLine, c.anchor⟩ = some ⟨.ending, m⟩)
    (h : sc.applyEnd again line c m = .ok c') : Step sc again line c c' := by
  obtain ⟨r, p, hr, he, hm⟩ := findNext_ending hf
  obtain ⟨⟨document, regions⟩, pos, firstLine, anchor, output⟩ := c
  unfold applyEnd at h
  rcases regions with _ | ⟨f, fs⟩
  · simp only [State.mapTop, State.top, List.head?_nil, Option.getD_none] at h hr he
    rw [hr] at h
    obtain ⟨o, ho, h⟩ := bind_ok_iff.1 h
    cases h
    exact .closeDocument rfl hr he hm ho
  · simp only [State.mapTop, State.top, List.head?_cons, Option.getD_some] at h hr he
    rw [hr] at h
    obtain ⟨o, ho, h⟩ := bind_ok_iff.1 h
    cases h
    have := Step.close (c := ⟨⟨document, f :: fs⟩, pos, firstLine, anchor, output⟩) rfl hr he hm ho
    simpa [State.pop] using this

theorem openRegion_step {ref : RuleRef} {rule : Rule} {t : EndTemplate} {p : Pattern}
    {m : Regex.Match} (hr : sc.registry.rule? ref = some rule) (ht : rule.template? = some t)
    (hp : rule.scanPattern? = some p) (hm : p.search line c.pos ⟨c.firstLine, c.anchor⟩ = some m)
    (hnew : m.start = m.stop → c.state.enteredAt ref m.start = false)
    (h : sc.openRegion again line c ref rule t rule.openingCaptures m = .ok c') :
    Step sc again line c c' := by
  unfold openRegion at h
  obtain ⟨o, ho, h⟩ := bind_ok_iff.1 h
  split at h
  · cases h
  · rename_i q hq
    cases h
    exact .opens hr ht hp hm hnew ho hq

theorem applyRule_step {ref : RuleRef} {m : Regex.Match}
    (hf : sc.findNext c.state line c.pos ⟨c.firstLine, c.anchor⟩ = some ⟨.rule ref, m⟩)
    (h : sc.applyRule again line c ref m = .ok c') : Step sc again line c c' := by
  obtain ⟨rule, p, hr, hp, hm⟩ := findNext_rule hf
  have hskip : ∀ b : Bool, (m.start == m.stop && b) = false → m.start = m.stop → b = false := by
    intro b hb he
    simpa [he] using hb
  simp only [applyRule, hr] at h
  cases rule with
  | single r =>
    obtain rfl : r.pattern = p := Option.some.inj hp
    simp only [] at h
    unfold applySingle at h
    obtain ⟨o, ho, h⟩ := bind_ok_iff.1 h
    cases h
    have := Step.single hr hm ho
    simpa using this
  | region r =>
    simp only [] at h
    split_ifs at h with hin
    · simp only [Bool.and_eq_true, beq_iff_eq] at hin
      cases h
      exact .skip hr hp hm hin.1 hin.2
    · exact openRegion_step hr rfl hp hm (hskip _ (by simpa using hin)) h
  | whileRegion r =>
    simp only [] at h
    split_ifs at h with hin
    · simp only [Bool.and_eq_true, beq_iff_eq] at hin
      cases h
      exact .skip hr hp hm hin.1 hin.2
    · exact openRegion_step hr rfl hp hm (hskip _ (by simpa using hin)) h
  | inclusion target repository => cases hp
  | group patterns => cases hp

theorem step_more (h : sc.step again line c = .ok (.more c')) : Step sc again line c c' := by
  rw [step_eq] at h
  split at h
  · cases h
  · rename_i m hf
    obtain ⟨c₁, h₁, he⟩ := map_ok_iff.1 h
    cases he
    exact applyEnd_step hf h₁
  · rename_i ref m hf
    obtain ⟨c₁, h₁, he⟩ := map_ok_iff.1 h
    cases he
    exact applyRule_step hf h₁

/-- A scan ends where nothing matches any more, and gives the rest of the line the scopes of the
state. -/
theorem step_done (h : sc.step again line c = .ok (.done c')) :
    sc.findNext c.state line c.pos ⟨c.firstLine, c.anchor⟩ = none ∧
      c' = { c with output := c.output.produce line.size c.state.scopes } := by
  rw [step_eq] at h
  split at h
  · rename_i hf
    cases h
    exact ⟨hf, rfl⟩
  · obtain ⟨c₁, -, he⟩ := map_ok_iff.1 h
    cases he
  · obtain ⟨c₁, -, he⟩ := map_ok_iff.1 h
    cases he

theorem scan_of_error {n : Nat} {e : Failure}
    (h : sc.step (sc.retokenize n) line c = .error e) : sc.scan (n + 1) line c = .error e := by
  change sc.step (sc.retokenize n) line c >>= _ = _
  rw [h]
  rfl

theorem scan_of_done {n : Nat} (h : sc.step (sc.retokenize n) line c = .ok (.done c')) :
    sc.scan (n + 1) line c = .ok c' := by
  change sc.step (sc.retokenize n) line c >>= _ = _
  rw [h]
  rfl

theorem scan_of_more {n : Nat} (h : sc.step (sc.retokenize n) line c = .ok (.more c')) :
    sc.scan (n + 1) line c = sc.scan n line c' := by
  change sc.step (sc.retokenize n) line c >>= _ = _
  rw [h]
  rfl

/-- A scan with so many steps allowed passes a cursor with so many left. -/
inductive Visits (sc : Scanner) (line : Array Char) : Nat → Cursor → Nat → Cursor → Prop
  | here (n : Nat) (c : Cursor) : Visits sc line n c n c
  | next {n k : Nat} {c c₁ c₂ : Cursor}
      (h : sc.step (sc.retokenize n) line c = .ok (.more c₁)) (hv : Visits sc line n c₁ k c₂) :
    Visits sc line (n + 1) c k c₂

section Visits

variable {n k : Nat} {c₁ c₂ : Cursor}

theorem Visits.scan_eq (h : Visits sc line n c k c') : sc.scan n line c = sc.scan k line c' := by
  induction h with
  | here n c => rfl
  | next h _ ih => exact (scan_of_more h).trans ih

theorem Visits.snoc (h : Visits sc line n c (k + 1) c₁)
    (hstep : sc.step (sc.retokenize k) line c₁ = .ok (.more c₂)) : Visits sc line n c k c₂ := by
  generalize hk : k + 1 = j at h
  induction h with
  | here n c =>
    subst hk
    exact .next hstep (.here k c₂)
  | next h _ ih => exact .next h (ih hstep hk)

/-- What every step keeps holds of every cursor that a scan passes. The captures of a step are
scanned with less fuel than the scan has. -/
theorem Visits.rec_step {P : Cursor → Prop} (h : Visits sc line n c k c')
    (hstep : ∀ fuel < n, ∀ c c', P c → Step sc (sc.retokenize fuel) line c c' → P c')
    (hc : P c) : P c' := by
  induction h with
  | here n c => exact hc
  | next h _ ih =>
    refine ih (fun fuel hf => hstep fuel (Nat.lt_succ_of_lt hf)) ?_
    exact hstep _ (Nat.lt_succ_self _) _ _ hc (step_more h)

theorem visits_of_scan (h : sc.scan n line c = .ok c') : ∃ k c₁, Visits sc line n c k c₁ ∧
    c' = { c₁ with output := c₁.output.produce line.size c₁.state.scopes } := by
  induction n generalizing c with
  | zero => cases h
  | succ n ih =>
    rcases hs : sc.step (sc.retokenize n) line c with e | c₁ | c₁
    · rw [scan_of_error hs] at h
      cases h
    · rw [scan_of_done hs] at h
      obtain rfl := Except.ok.inj h
      exact ⟨n + 1, c, .here _ c, (step_done hs).2⟩
    · rw [scan_of_more hs] at h
      obtain ⟨k, c₂, hv, hc'⟩ := ih h
      exact ⟨k, c₂, .next hs hv, hc'⟩

theorem scan_ok {P : Cursor → Prop} (n : Nat)
    (hstep : ∀ fuel < n, ∀ c c', P c → Step sc (sc.retokenize fuel) line c c' → P c')
    (hc : P c) (h : sc.scan n line c = .ok c') :
    ∃ c₀, P c₀ ∧ c' = { c₀ with output := c₀.output.produce line.size c₀.state.scopes } := by
  obtain ⟨k, c₀, hv, hc'⟩ := visits_of_scan h
  exact ⟨c₀, hv.rec_step hstep hc, hc'⟩

end Visits

end Scanner

/-! ## The conditions of while regions -/

/-- What a region does to the cursor when a line begins, if it stays open: nothing but to be open
again, or to take the match of its condition. -/
inductive WhileStep (sc : Scanner) (again : Retokenize) (line : Array Char) (f : Frame)
    (c : Cursor) : Cursor → Prop
  | unconditional :
    WhileStep sc again line f c { c with state := c.state.push f }
  | holds {r : WhileRule} {p : Pattern} {m : Regex.Match} {o : Output}
      (hr : sc.registry.rule? f.rule = some (.whileRegion r)) (he : f.ending = some p)
      (hm : p.matchAt line c.pos ⟨c.firstLine, c.anchor⟩ = some m)
      (ho : emitCaptures again (c.state.push f) line f.rule.grammar r.conditionCaptures m
        c.firstLine (c.output.produce m.start f.contentScopes) = .ok o) :
    WhileStep sc again line f c (if c.pos < m.stop then
      ⟨c.state.push f, m.stop, false, some m.stop, o.produce m.stop f.contentScopes⟩
      else { c with state := c.state.push f, output := o.produce m.stop f.contentScopes })

namespace Scanner

variable {sc : Scanner} {again : Retokenize} {line : Array Char} {c c' : Cursor} {f : Frame}
  {fs : List Frame}

theorem checkWhile_cons (h : sc.checkWhile again line (f :: fs) c = .ok c') :
    c' = c ∨ ∃ c₁, WhileStep sc again line f c c₁ ∧ sc.checkWhile again line fs c₁ = .ok c' := by
  simp only [checkWhile] at h
  split at h
  · rename_i r p hr he
    split at h
    · exact .inl (Except.ok.inj h).symm
    · rename_i m hm
      obtain ⟨o, ho, h⟩ := bind_ok_iff.1 h
      refine .inr ⟨_, .holds hr he hm ho, ?_⟩
      split_ifs at h ⊢ <;> exact h
  · exact .inr ⟨_, .unconditional, h⟩

/-- The regions that stay open when a line begins are the outermost ones. -/
theorem checkWhile_state (h : sc.checkWhile again line fs c = .ok c') :
    ∃ gs, gs <+: fs ∧ c'.state = ⟨c.state.document, gs.reverse ++ c.state.regions⟩ := by
  induction fs generalizing c with
  | nil => exact ⟨[], List.prefix_rfl, by cases h; rfl⟩
  | cons f fs ih =>
    rcases checkWhile_cons h with rfl | ⟨c₁, hw, h₁⟩
    · exact ⟨[], List.nil_prefix, rfl⟩
    · obtain ⟨gs, hgs, hst⟩ := ih h₁
      have hpush : c₁.state = c.state.push f := by
        cases hw with
        | unconditional => rfl
        | holds => split_ifs <;> rfl
      refine ⟨f :: gs, List.prefix_cons_inj f |>.2 hgs, ?_⟩
      rw [hst, hpush]
      simp [State.push]

theorem checkWhile_ok {P : Cursor → Prop}
    (hstep : ∀ f ∈ fs, ∀ c c', P c → WhileStep sc again line f c c' → P c')
    (hc : P c) (h : sc.checkWhile again line fs c = .ok c') : P c' := by
  induction fs generalizing c with
  | nil => cases h; exact hc
  | cons f fs ih =>
    rcases checkWhile_cons h with rfl | ⟨c₁, hw, h₁⟩
    · exact hc
    · exact ih (fun g hg => hstep g (List.mem_cons_of_mem f hg))
        (hstep f List.mem_cons_self c c₁ hc hw) h₁

theorem checkWhile_lineStart {s : State} {firstLine : Bool}
    (h : sc.checkWhile again line s.regions.reverse (lineStart s firstLine) = .ok c) :
    c.state.document = s.document ∧ c.state.regions <:+ s.regions := by
  obtain ⟨gs, hgs, hstate⟩ := checkWhile_state h
  have hsuffix := List.reverse_suffix.2 hgs
  rw [List.reverse_reverse] at hsuffix
  refine ⟨by rw [hstate]; rfl, ?_⟩
  rw [hstate]
  change gs.reverse ++ [] <:+ s.regions
  rwa [List.append_nil]

theorem scanLine_ok {fuel : Nat} {s : State} {firstLine : Bool}
    (h : sc.scanLine fuel s line firstLine = .ok c') :
    ∃ c, sc.checkWhile (sc.retokenize fuel) line s.regions.reverse (lineStart s firstLine) = .ok c ∧
      sc.scan fuel line c = .ok c' :=
  bind_ok_iff.1 h

end Scanner

end Scopelight
