import Scopelight.Proofs.Match
import Scopelight.Proofs.State

/-!
# Conditions of while regions

When a line begins, the conditions of the while regions have their turns from the outermost region
on, each where the match of the one before it ended (`Passes`). The first that does not match cuts
the state: its region is closed with all that is inside it, and the scan goes on as if these regions
had never been open (`conditions_cut_state`).
-/

namespace Scopelight

/-- Matches that lie end to end, the first one from `a`; the last one ends at `b`. -/
def EndToEnd (b : Nat) : Nat → List Regex.Match → Prop
  | a, [] => a = b
  | a, m :: ms => m.start = a ∧ m.start ≤ m.stop ∧ EndToEnd b m.stop ms

/-- The cursor behind the match of a region's condition, inside the region. An empty match changes
neither where the search goes on nor which anchors match there. -/
def Cursor.afterCondition (c : Cursor) (f : Frame) (m : Regex.Match) (o : Output) : Cursor :=
  { state := c.state.push f
    pos := m.stop
    firstLine := c.firstLine && m.start == m.stop
    anchor := if m.start < m.stop then some m.stop else c.anchor
    output := o.produce m.stop f.contentScopes }

/-- All of these regions, from the outermost on, are open when a line begins. Each while region
among them takes a match of its condition at the cursor, and has the tokens made for it in the state
that ends with the region; the other regions take nothing. -/
inductive Scanner.Passes (sc : Scanner) (again : Retokenize) (line : Array Char) :
    Cursor → List Frame → List Regex.Match → Cursor → Prop
  | nil (c : Cursor) : Passes sc again line c [] [] c
  | other {c c' : Cursor} {f : Frame} {fs : List Frame} {ms : List Regex.Match}
      (hr : ∀ r, sc.registry.rule? f.rule ≠ some (.whileRegion r))
      (h : Passes sc again line { c with state := c.state.push f } fs ms c') :
    Passes sc again line c (f :: fs) ms c'
  | condition {c c' : Cursor} {f : Frame} {fs : List Frame} {ms : List Regex.Match} {r : WhileRule}
      {p : Pattern} {m : Regex.Match} {o : Output}
      (hr : sc.registry.rule? f.rule = some (.whileRegion r)) (he : f.ending = some p)
      (hm : p.matchAt line c.pos ⟨c.firstLine, c.anchor⟩ = some m)
      (ho : emitCaptures again (c.state.push f) line f.rule.grammar r.conditionCaptures m
        c.firstLine (c.output.produce m.start f.contentScopes) = .ok o)
      (h : Passes sc again line (c.afterCondition f m o) fs ms c') :
    Passes sc again line c (f :: fs) (m :: ms) c'

namespace Scanner

section Passes

variable {sc : Scanner} {again : Retokenize} {line : Array Char} {c c' : Cursor} {f : Frame}
  {fs : List Frame} {ms : List Regex.Match}

theorem afterCondition_of_matchAt {p : Pattern} {m : Regex.Match}
    (hm : p.matchAt line c.pos ⟨c.firstLine, c.anchor⟩ = some m) (o : Output) :
    (if c.pos < m.stop then
      ⟨c.state.push f, m.stop, false, some m.stop, o.produce m.stop f.contentScopes⟩
    else { c with state := c.state.push f, output := o.produce m.stop f.contentScopes }) =
      c.afterCondition f m o := by
  obtain ⟨hm, hstart⟩ := Pattern.search_of_matchAt hm
  obtain ⟨hle, -⟩ := Pattern.search_whole hm
  unfold Cursor.afterCondition
  by_cases hlt : m.start < m.stop
  · have hne : (m.start == m.stop) = false := by simp; omega
    rw [if_pos (by omega), if_pos hlt, hne, Bool.and_false]
  · have heq : m.start = m.stop := by omega
    rw [if_neg (by omega), if_neg hlt]
    simp [← heq, hstart]

theorem checkWhile_other (hr : ∀ r, sc.registry.rule? f.rule ≠ some (.whileRegion r)) :
    sc.checkWhile again line (f :: fs) c =
      sc.checkWhile again line fs { c with state := c.state.push f } := by
  simp only [checkWhile]
  split
  · rename_i r p hrule he
    exact absurd hrule (hr r)
  · rfl

theorem checkWhile_condition {r : WhileRule} {p : Pattern}
    (hr : sc.registry.rule? f.rule = some (.whileRegion r)) (he : f.ending = some p) :
    sc.checkWhile again line (f :: fs) c =
      match p.matchAt line c.pos ⟨c.firstLine, c.anchor⟩ with
      | none => .ok c
      | some m => emitCaptures again (c.state.push f) line f.rule.grammar r.conditionCaptures m
          c.firstLine (c.output.produce m.start f.contentScopes) >>= fun o =>
            sc.checkWhile again line fs (c.afterCondition f m o) := by
  simp only [checkWhile, hr, he]
  rcases hm : p.matchAt line c.pos ⟨c.firstLine, c.anchor⟩ with _ | m
  · rfl
  · simp only
    congr 1
    funext o
    rw [← afterCondition_of_matchAt hm o]
    split_ifs <;> rfl

theorem Passes.state_eq (h : sc.Passes again line c fs ms c') :
    c'.state = ⟨c.state.document, fs.reverse ++ c.state.regions⟩ := by
  induction h with
  | nil c => rfl
  | other hr h ih => simpa [State.push] using ih
  | condition hr he hm ho h ih => simpa [Cursor.afterCondition, State.push] using ih

theorem Passes.endToEnd (h : sc.Passes again line c fs ms c') : EndToEnd c'.pos c.pos ms := by
  induction h with
  | nil c => rfl
  | other hr h ih => exact ih
  | condition hr he hm ho h ih =>
    obtain ⟨hm, hstart⟩ := Pattern.search_of_matchAt hm
    exact ⟨hstart, (Pattern.search_whole hm).1, ih⟩

theorem Passes.checkWhile_eq (h : sc.Passes again line c fs ms c') :
    sc.checkWhile again line fs c = .ok c' := by
  induction h with
  | nil c => rfl
  | other hr h ih => rw [checkWhile_other hr, ih]
  | condition hr he hm ho h ih =>
    rw [checkWhile_condition hr he, hm]
    simp only [ho]
    exact ih

/-- Checks that end without an error pass all regions, or those outside one whose condition does not
match. -/
theorem passes_of_checkWhile (hopened : ∀ f ∈ fs, f.Opened sc.registry)
    (h : sc.checkWhile again line fs c = .ok c') :
    ∃ below ms, sc.Passes again line c below ms c' ∧
      (fs = below ∨ ∃ f above r p, fs = below ++ f :: above ∧
        sc.registry.rule? f.rule = some (.whileRegion r) ∧ f.ending = some p ∧
        p.matchAt line c'.pos ⟨c'.firstLine, c'.anchor⟩ = none) := by
  induction fs generalizing c with
  | nil =>
    cases h
    exact ⟨[], [], .nil _, .inl rfl⟩
  | cons f fs ih =>
    have hrest : ∀ g ∈ fs, g.Opened sc.registry := fun g hg =>
      hopened g (List.mem_cons_of_mem f hg)
    by_cases hwhile : ∃ r, sc.registry.rule? f.rule = some (.whileRegion r)
    · obtain ⟨r, hr⟩ := hwhile
      obtain ⟨⟨rule, t, opened, m₀, p, -, -, -, he⟩, -⟩ := hopened f List.mem_cons_self
      rw [checkWhile_condition hr he] at h
      split at h
      · rename_i hm
        cases h
        exact ⟨[], [], .nil _, .inr ⟨f, fs, r, p, rfl, hr, he, hm⟩⟩
      · rename_i m hm
        obtain ⟨o, ho, h⟩ := bind_ok_iff.1 h
        obtain ⟨below, ms, hpasses, hcut⟩ := ih hrest h
        refine ⟨f :: below, m :: ms, .condition hr he hm ho hpasses, ?_⟩
        rcases hcut with rfl | ⟨g, above, r', p', rfl, hcut⟩
        · exact .inl rfl
        · exact .inr ⟨g, above, r', p', rfl, hcut⟩
    · have hother : ∀ r, sc.registry.rule? f.rule ≠ some (.whileRegion r) :=
        fun r hr => hwhile ⟨r, hr⟩
      rw [checkWhile_other hother] at h
      obtain ⟨below, ms, hpasses, hcut⟩ := ih hrest h
      refine ⟨f :: below, ms, .other hother hpasses, ?_⟩
      rcases hcut with rfl | ⟨g, above, r', p', rfl, hcut⟩
      · exact .inl rfl
      · exact .inr ⟨g, above, r', p', rfl, hcut⟩

end Passes

end Scanner

namespace Tokenizer

section Conditions

variable {r : Registry} {scope : String} {config : Config} {fresh t : Tokenizer} {s : State}
  {again : Retokenize} {line : Array Char} {firstLine : Bool} {anchor : Option Nat} {c : Cursor}

/-- When the conditions of a state's while regions have been checked, the regions `below` have
passed: their conditions, from the outermost on, matched end to end from the start of the line.
Either these are all regions, and the state is what it was, or the condition of the while region
next to them does not match where they end. Then they are the regions that stay open, and place,
anchors and output are those that checking them alone leads to. -/
theorem conditions_cut_state (h : r.tokenizerWith scope config = .ok fresh) (ht : fresh.History t)
    (hs : fresh.Reachable s)
    (hc : t.scanner.checkWhile again line s.regions.reverse
      { Scanner.lineStart s firstLine with anchor } = .ok c) :
    ∃ below ms,
      t.scanner.Passes again line { Scanner.lineStart s firstLine with anchor } below ms c ∧
      EndToEnd c.pos 0 ms ∧ c.state = ⟨s.document, below.reverse⟩ ∧
      (s.regions.reverse = below ∧ c.state = s ∨
        ∃ f above w p, s.regions.reverse = below ++ f :: above ∧
          r.rule? f.rule = some (.whileRegion w) ∧ f.ending = some p ∧
          p.matchAt line c.pos ⟨c.firstLine, c.anchor⟩ = none ∧
          t.scanner.checkWhile again line below
            { Scanner.lineStart s firstLine with anchor } = .ok c) := by
  obtain ⟨g, hg, -⟩ := Registry.grammar_of_tokenizerWith h
  have hregistry : t.scanner.registry = r :=
    (congrArg Tokenizer.registry ht.forget_eq).trans (Registry.registry_of_tokenizerWith h).1
  have hopened : ∀ f ∈ s.regions.reverse, f.Opened t.scanner.registry := by
    intro f hf
    rw [hregistry]
    exact (hs.nested h hg).opened f (List.mem_reverse.1 hf)
  obtain ⟨below, ms, hpasses, hcut⟩ := Scanner.passes_of_checkWhile hopened hc
  have hstate : c.state = ⟨s.document, below.reverse⟩ := by
    simpa [Scanner.lineStart] using hpasses.state_eq
  refine ⟨below, ms, hpasses, hpasses.endToEnd, hstate, ?_⟩
  rcases hcut with hall | ⟨f, above, w, p, hsplit, hw, he, hm⟩
  · refine .inl ⟨hall, ?_⟩
    rw [hstate, ← hall, List.reverse_reverse]
  · rw [hregistry] at hw
    exact .inr ⟨f, above, w, p, hsplit, hw, he, hm, hpasses.checkWhile_eq⟩

end Conditions

end Tokenizer

/-- Quotes that go on over lines, groups in them, and lists in the groups that go on over lines. -/
def quoteGrammar : Descriptor :=
  { Descriptor.empty with
    scopeName := "source.quote"
    patterns := [
      { RuleSpec.empty with
        name := some "quote"
        beginPattern := some ">"
        whilePattern := some ">"
        patterns := some [
          { RuleSpec.empty with
            beginPattern := some "\\("
            endPattern := some "\\)"
            patterns := some [
              { RuleSpec.empty with
                name := some "list"
                beginPattern := some "-"
                whilePattern := some "-" }] }] }] }

namespace Tokenizer

/-- Where the list does not go on, the group that it stands in stays open with the quote. -/
theorem group_stays_without_list :
    ∃ r fresh s c below ms, Registry.empty.register [quoteGrammar] = .ok r ∧
      r.tokenizerWith "source.quote" .default = .ok fresh ∧ fresh.Reachable s ∧ s.depth = 3 ∧
      fresh.scanner.checkWhile (fresh.scanner.retokenize stepLimit) (matchedLine ">x".toList)
        s.regions.reverse { Scanner.lineStart s false with anchor := none } = .ok c ∧
      fresh.scanner.Passes (fresh.scanner.retokenize stepLimit) (matchedLine ">x".toList)
        { Scanner.lineStart s false with anchor := none } below ms c ∧
      EndToEnd c.pos 0 ms ∧ c.pos = 1 ∧ c.state = ⟨s.document, below.reverse⟩ ∧
      c.state.depth = 2 := by
  have hrun : (Registry.empty.register [quoteGrammar]).toOption.any (fun r =>
      (r.tokenizerWith "source.quote" .default).toOption.any fun t =>
        (t.tokenizeLine ">(-\n".toList t.initialState true).1.toOption.any fun p =>
          p.2.depth == 3 &&
          (t.scanner.checkWhile (M := Scan) (t.scanner.retokenize stepLimit)
            (matchedLine ">x".toList) p.2.regions.reverse
            { Scanner.lineStart p.2 false with anchor := none }).toOption.any
              fun c => c.pos == 1 && c.state.depth == 2) = true := by decide +kernel
  obtain ⟨r, hr, hrun⟩ := exists_ok_of_any hrun
  obtain ⟨fresh, ht, hrun⟩ := exists_ok_of_any hrun
  obtain ⟨⟨tokens, s⟩, hline, hrun⟩ := exists_ok_of_any hrun
  simp only [Bool.and_eq_true, beq_iff_eq] at hrun
  obtain ⟨hdepth, hrun⟩ := hrun
  obtain ⟨c, hc, hcut⟩ := exists_ok_of_any hrun
  simp only [Bool.and_eq_true, beq_iff_eq] at hcut
  have hreach : fresh.Reachable s := .line .start .initial hline
  obtain ⟨below, ms, hpasses, hends, hstate, -⟩ := conditions_cut_state ht .start hreach hc
  exact ⟨r, fresh, s, c, below, ms, hr, ht, hreach, hdepth, hc, hpasses, hends, hcut.1, hstate,
    hcut.2⟩

end Tokenizer

end Scopelight
