import Scopelight.Proofs.Locality
import Scopelight.Proofs.Shown
import Scopelight.Proofs.State

/-!
# Where regions were opened

A region that is open behind a line was opened on that line, or it was open before it with all that
is around it (`lineTokens_regions`). So the innermost region of a state was opened on some line and
has been open since (`stateAfter_regions`). What its frame says of the match that opened it, it says
as long as it is open: `\G` matches at the start of a line if that match ran to the end of its line,
however many lines ago that was (`lineStart_anchor_of_opening`).
-/

namespace Scopelight

open Text

namespace Scanner

/-- The scan of a line in a state comes to a rule's match and opens a region there, above those that
are open. Frame and regions are as they are kept for the lines behind. -/
inductive Opens (sc : Scanner) (s : State) (line : Array Char) (firstLine : Bool) :
    Frame → List Frame → Regex.Match → Prop
  | mk {c₀ c c' : Cursor} {n : Nat} {f : Frame} {m : Regex.Match}
      (hstart : sc.checkWhile (sc.retokenize stepLimit) line s.regions.reverse
        (lineStart s firstLine) = .ok c₀)
      (hv : Visits sc line stepLimit c₀ (n + 1) c)
      (hf : sc.findNext c.state line c.pos ⟨c.firstLine, c.anchor⟩ = some ⟨.rule f.rule, m⟩)
      (hstep : sc.step (sc.retokenize n) line c = .ok (.more c'))
      (hopen : c'.state.forgetPlaces.regions = f :: c.state.forgetPlaces.regions) :
    Opens sc s line firstLine f c.state.forgetPlaces.regions m

section Opens

variable {sc : Scanner} {again : Retokenize} {line : Array Char} {firstLine : Bool} {s : State}
  {c c₀ c₁ c₂ c' : Cursor} {n k N : Nat} {ref : RuleRef} {m : Regex.Match} {f : Frame}
  {fs : List Frame}

theorem applyEnd_regions (h : sc.applyEnd again line c m = .ok c') :
    c'.state.regions <:+ c.state.regions := by
  obtain ⟨⟨document, regions⟩, pos, firstLine, anchor, output⟩ := c
  unfold applyEnd at h
  dsimp only at h
  split at h
  all_goals
    obtain ⟨o, -, h⟩ := bind_ok_iff.1 h
    rcases regions with _ | ⟨f, fs⟩
    · cases h
      exact List.suffix_rfl
    · cases h
      exact List.suffix_cons f fs

theorem openRegion_state {rule : Rule} {t : EndTemplate} {captures : CaptureRules}
    (h : sc.openRegion again line c ref rule t captures m = .ok c') :
    ∃ f, c'.state = c.state.push f ∧ f.rule = ref ∧
      f.openedAtLineEnd = (m.stop == line.size) := by
  unfold openRegion at h
  obtain ⟨o, ho, h⟩ := bind_ok_iff.1 h
  split at h
  · cases h
  · cases h
    exact ⟨_, rfl, rfl, rfl⟩

theorem applyRule_state (h : sc.applyRule again line c ref m = .ok c') :
    c'.state = c.state ∨ ∃ f, c'.state = c.state.push f ∧ f.rule = ref ∧
      f.openedAtLineEnd = (m.stop == line.size) := by
  unfold applyRule at h
  dsimp only at h
  split at h
  · unfold applySingle at h
    obtain ⟨o, ho, h⟩ := bind_ok_iff.1 h
    cases h
    exact .inl rfl
  · split_ifs at h
    · cases h
      exact .inl rfl
    · exact .inr (openRegion_state h)
  · split_ifs at h
    · cases h
      exact .inl rfl
    · exact .inr (openRegion_state h)
  · cases h
    exact .inl rfl

theorem applyRule_of_step
    (hf : sc.findNext c.state line c.pos ⟨c.firstLine, c.anchor⟩ = some ⟨.rule ref, m⟩)
    (h : sc.step again line c = .ok (.more c')) : sc.applyRule again line c ref m = .ok c' := by
  rw [step_eq] at h
  rw [hf] at h
  obtain ⟨c₁, h₁, he⟩ := map_ok_iff.1 h
  cases he
  exact h₁

/-- A step opens a region at a rule's match, or opens none. -/
theorem step_regions (h : sc.step again line c = .ok (.more c')) :
    c'.state.regions <:+ c.state.regions ∨
      ∃ f m, sc.findNext c.state line c.pos ⟨c.firstLine, c.anchor⟩ = some ⟨.rule f.rule, m⟩ ∧
        c'.state = c.state.push f := by
  rcases hf : sc.findNext c.state line c.pos ⟨c.firstLine, c.anchor⟩ with _ | ⟨candidate, m⟩
  · simp only [step_eq, hf] at h
    cases h
  cases candidate with
  | ending =>
    simp only [step_eq, hf] at h
    obtain ⟨c₁, h₁, he⟩ := map_ok_iff.1 h
    cases he
    exact .inl (applyEnd_regions h₁)
  | rule ref =>
    rcases applyRule_state (applyRule_of_step hf h) with hstate | ⟨f, hstate, rfl, -⟩
    · exact .inl ⟨[], congrArg State.regions hstate⟩
    · exact .inr ⟨f, m, rfl, hstate⟩

theorem Opens.openedAtLineEnd (h : sc.Opens s line firstLine f fs m) :
    f.openedAtLineEnd = (m.stop == line.size) := by
  obtain ⟨hstart, hv, hf, hstep, hopen⟩ := h
  rcases applyRule_state (applyRule_of_step hf hstep) with hstate | ⟨g, hstate, -, hend⟩
  · rw [hstate] at hopen
    have := congrArg List.length hopen
    simp at this
  · rw [hstate] at hopen
    obtain ⟨rfl, -⟩ := List.cons.inj hopen
    exact hend

/-- A region that is open where a scan has come to was open before it with all that is around it, or
was opened on the way. -/
theorem Visits.regions
    (hstart : sc.checkWhile (sc.retokenize stepLimit) line s.regions.reverse
      (lineStart s firstLine) = .ok c₀)
    (hv₀ : Visits sc line stepLimit c₀ n c) (hv : Visits sc line n c k c₁)
    (h : f :: fs <:+ c₁.state.forgetPlaces.regions) :
    f :: fs <:+ c.state.forgetPlaces.regions ∨ ∃ m, sc.Opens s line firstLine f fs m := by
  -- on what is left of the scan; `hv₀` remembers how it has come here
  induction hv with
  | here => exact .inl h
  | next hstep hv ih =>
    rcases ih (hv₀.snoc hstep) h with h | hopens
    · rcases step_regions hstep with hsuffix | ⟨g, m, hf, hpush⟩
      · exact .inl (h.trans (hsuffix.map _))
      · rw [hpush] at h
        rcases List.suffix_cons_iff.1 h with heq | h
        · obtain ⟨rfl, rfl⟩ := List.cons.inj heq
          exact .inr ⟨m, .mk hstart hv₀ hf hstep (by rw [hpush]; rfl)⟩
        · exact .inl h
    · exact .inr hopens

theorem scanLine_regions (h : sc.scanLine stepLimit s line firstLine = .ok c')
    (hf : f :: fs <:+ c'.state.forgetPlaces.regions) :
    f :: fs <:+ s.forgetPlaces.regions ∨ ∃ m, sc.Opens s line firstLine f fs m := by
  obtain ⟨c₀, hwhile, hscan⟩ := scanLine_ok h
  obtain ⟨k, c₁, hv, rfl⟩ := visits_of_scan hscan
  rcases Visits.regions hwhile (.here _ _) hv hf with hf | hopens
  · exact .inl (hf.trans ((checkWhile_lineStart hwhile).2.map _))
  · exact .inr hopens

theorem not_opens_of_findNext
    (hstart : sc.checkWhile (sc.retokenize stepLimit) line s.regions.reverse
      (lineStart s firstLine) = .ok c₀)
    (hnone : sc.findNext c₀.state line c₀.pos ⟨c₀.firstLine, c₀.anchor⟩ = none) :
    ¬ sc.Opens s line firstLine f fs m := by
  rintro ⟨hstart', hv, hf, -, -⟩
  obtain rfl := Except.ok.inj (hstart.symm.trans hstart')
  generalize stepLimit = N at hv
  cases hv with
  | here =>
    rw [hnone] at hf
    cases hf
  | next hstep =>
    simp only [step_eq, hnone] at hstep
    cases hstep

theorem document_openedAtLineEnd_of_step (h : Step sc again line c c') :
    c'.state.document.openedAtLineEnd = c.state.document.openedAtLineEnd := by
  cases h with
  | closeDocument hs => rw [hs]
  | close | single | skip | opens => rfl

theorem scanLine_document (h : sc.scanLine stepLimit s line firstLine = .ok c') :
    c'.state.document.openedAtLineEnd = s.document.openedAtLineEnd := by
  obtain ⟨c₀, hwhile, hscan⟩ := scanLine_ok h
  obtain ⟨c₁, hc₁, rfl⟩ := scan_ok
    (P := fun c => c.state.document.openedAtLineEnd = s.document.openedAtLineEnd) stepLimit
    (fun _ _ _ _ hc hstep => (document_openedAtLineEnd_of_step hstep).trans hc)
    (by rw [(checkWhile_lineStart hwhile).1]) hscan
  exact hc₁

theorem checkWhile_anchor {gs : List Frame} (h : sc.checkWhile again line gs c = .ok c')
    (hpos : c'.pos = 0) : c'.anchor = c.anchor := by
  refine checkWhile_ok (P := fun c' => c'.pos = 0 → c'.anchor = c.anchor) ?_ (fun _ => rfl) h hpos
  intro g _ c₁ c₂ hc hw hpos
  cases hw with
  | unconditional => exact hc hpos
  | holds hr he hm ho =>
    split_ifs at hpos ⊢ with hlt
    · simp only at hpos
      omega
    · exact hc hpos

end Opens

end Scanner

/-! ## Lines -/

namespace Tokenizer

/-- These regions are the outermost ones from a state on, as long as these lines last. -/
def StayOpen (t : Tokenizer) (fs : List Frame) (s : State) (firstLine : Bool)
    (lines : List Line) : Prop :=
  ∀ kept, kept <+: lines →
    ∃ s', t.stateAfter s firstLine kept = .ok s' ∧ fs <:+ s'.regions

section Lines

variable {r : Registry} {scope : String} {config : Config} {t : Tokenizer} {s s₀ next : State}
  {firstLine : Bool} {line : Line} {lines : List Line} {tokens : List Token} {f : Frame}
  {fs : List Frame}

/-- A region that is open behind a line was open before it with all that is around it, or the line
opens it. -/
theorem lineTokens_regions (hs : s.Settled)
    (h : t.lineTokens line.text s firstLine = .ok (tokens, next)) (hf : f :: fs <:+ next.regions) :
    f :: fs <:+ s.regions ∨
      ∃ m, t.scanner.Opens s (matchedLine line.text) firstLine f fs m := by
  obtain ⟨c, hc, h⟩ := bind_ok_iff.1 h
  cases h
  have := Scanner.scanLine_regions hc hf
  rwa [hs.forgetPlaces_eq] at this

theorem StayOpen.cons (hl : t.forget.lineTokens line.text s firstLine = .ok (tokens, next))
    (h : t.forget.StayOpen fs next false lines) (hs : fs <:+ s.regions) :
    t.forget.StayOpen fs s firstLine (line :: lines) := by
  intro kept hkept
  rcases kept with _ | ⟨line', kept⟩
  · exact ⟨s, rfl, hs⟩
  · obtain ⟨rfl, hrest⟩ := List.cons_prefix_cons.1 hkept
    obtain ⟨s', hs', hfs⟩ := h kept hrest
    exact ⟨s', by rw [stateAfter_of_ok hl, hs'], hfs⟩

/-- A region that is open behind lines has been open since the start of the lines with all that is
around it, or since one of the lines, which opens it. -/
theorem stateAfter_regions (hs₀ : s₀.Settled)
    (h : t.forget.stateAfter s₀ firstLine lines = .ok s) (hf : f :: fs <:+ s.regions) :
    t.forget.StayOpen (f :: fs) s₀ firstLine lines ∨
      ∃ before line after s₁ s₂ m, lines = before ++ line :: after ∧
        t.forget.stateAfter s₀ firstLine before = .ok s₁ ∧
        t.forget.stateAfter s₀ firstLine (before ++ [line]) = .ok s₂ ∧
        t.forget.scanner.Opens s₁ (matchedLine line.text) (firstLine && before.isEmpty) f fs m ∧
        t.forget.StayOpen (f :: fs) s₂ false after := by
  induction lines generalizing s₀ firstLine with
  | nil =>
    obtain rfl := Except.ok.inj h
    refine .inl fun kept hkept => ⟨s₀, ?_, hf⟩
    rw [List.prefix_nil.1 hkept]
    rfl
  | cons line lines ih =>
    obtain ⟨tokens, next, hl, hnext⟩ := stateAfter_cons_ok h
    rcases ih (lineTokens_settled hl) hnext with hstay | ⟨before, line', after, s₁, s₂, m, rfl,
      hbefore, hthere, hopens, hstay⟩
    · -- open through all lines behind this one, so this one opens it unless it was open before
      obtain ⟨s', hs', hregions⟩ := hstay [] List.nil_prefix
      obtain rfl := Except.ok.inj hs'
      rcases lineTokens_regions hs₀ hl hregions with hregions | ⟨m, hopens⟩
      · exact .inl (hstay.cons hl hregions)
      · refine .inr ⟨[], line, lines, s₀, next, m, rfl, rfl, ?_, by simpa using hopens, hstay⟩
        rw [List.nil_append, stateAfter_of_ok hl]
        rfl
    · refine .inr ⟨line :: before, line', after, s₁, s₂, m, rfl, ?_, ?_, by simpa using hopens,
        hstay⟩
      · rw [stateAfter_of_ok hl, hbefore]
      · rw [List.cons_append, stateAfter_of_ok hl, hthere]

theorem Reachable.document_openedAtLineEnd (h : r.tokenizerWith scope config = .ok t)
    (hs : t.Reachable s) : s.document.openedAtLineEnd = false := by
  obtain ⟨g, -, -, -, hinitial⟩ := Registry.grammar_of_tokenizerWith h
  refine hs.rec_line (Registry.truthful_of_tokenizerWith h)
    (P := fun s => s.document.openedAtLineEnd = false) ?_ ?_
  · rw [hinitial]
    rfl
  · intro line s next firstLine tokens hs hl
    obtain ⟨c, hc, hl⟩ := bind_ok_iff.1 hl
    cases hl
    exact (Scanner.scanLine_document hc).trans hs

/-- `\G` matches at the start of a line if the match that opened the innermost region ran to the end
of its line; that region has been open since, for any number of lines. While the conditions of while
regions take no text it stays so. Outside all regions `\G` does not match there. -/
theorem lineStart_anchor_of_opening (h : r.tokenizerWith scope config = .ok t)
    (hs : t.stateAfter t.initialState true lines = .ok s) (firstLine : Bool) :
    (s.regions = [] → (Scanner.lineStart s firstLine).anchor = none) ∧
    (∀ f fs, s.regions = f :: fs →
      ∃ before line after s₁ s₂ m, lines = before ++ line :: after ∧
        t.stateAfter t.initialState true before = .ok s₁ ∧
        t.stateAfter t.initialState true (before ++ [line]) = .ok s₂ ∧
        t.scanner.Opens s₁ (matchedLine line.text) before.isEmpty f fs m ∧
        t.StayOpen (f :: fs) s₂ false after ∧
        (Scanner.lineStart s firstLine).anchor =
          if m.stop = (matchedLine line.text).size then some 0 else none) ∧
    ∀ again text c,
      t.scanner.checkWhile again text s.regions.reverse (Scanner.lineStart s firstLine) = .ok c →
      c.pos = 0 → c.anchor = (Scanner.lineStart s firstLine).anchor := by
  have hforget := Registry.forget_of_tokenizerWith h
  have htruthful := Registry.truthful_of_tokenizerWith h
  have hafter : t.forget.stateAfter t.initialState true lines = .ok s := by rwa [hforget]
  refine ⟨?_, ?_, fun again text c hc hpos => Scanner.checkWhile_anchor hc hpos⟩
  · intro hregions
    have hdocument :=
      (reachable_of_stateAfter htruthful .initial hafter).document_openedAtLineEnd h
    simp [Scanner.lineStart, State.top, hregions, hdocument]
  · intro f fs hregions
    have hinitial : t.initialState.Settled := Reachable.settled h .initial
    have hself : f :: fs <:+ s.regions := ⟨[], hregions.symm⟩
    have hopen := stateAfter_regions hinitial hafter hself
    rw [hforget] at hopen
    rcases hopen with hstay | ⟨before, line, after, s₁, s₂, m, hlines, hbefore, hthere, hopens,
      hstay⟩
    · -- nothing is open where a document begins
      obtain ⟨s', hs', hsuffix⟩ := hstay [] List.nil_prefix
      obtain rfl := Except.ok.inj hs'
      obtain ⟨g, -, -, -, hstart⟩ := Registry.grammar_of_tokenizerWith h
      rw [hstart] at hsuffix
      simp [State.initial] at hsuffix
    · rw [Bool.true_and] at hopens
      refine ⟨before, line, after, s₁, s₂, m, hlines, hbefore, hthere, hopens, hstay, ?_⟩
      simp [Scanner.lineStart, State.top, hregions, hopens.openedAtLineEnd]

end Lines

end Tokenizer

/-- Blocks that open at the end of a line, and what comes first in them; groups in the blocks. -/
def blockGrammar : Descriptor :=
  { Descriptor.empty with
    scopeName := "source.block"
    patterns := [
      { RuleSpec.empty with
        name := some "block"
        beginPattern := some "<\\n"
        endPattern := some ">"
        patterns := some [
          { RuleSpec.empty with
            name := some "first"
            matchPattern := some "\\Gx" },
          { RuleSpec.empty with
            beginPattern := some "\\("
            endPattern := some "\\)" }] }] }

namespace Tokenizer

/-- Behind a group that is closed again, the block is innermost as it was, and `\G` matches at the
start of the line. -/
theorem anchor_in_block_after_group :
    ∃ r t s f fs before line after s₁ m, Registry.empty.register [blockGrammar] = .ok r ∧
      r.tokenizerWith "source.block" .default = .ok t ∧
      t.stateAfter t.initialState true (linesOf "<\n(\n)\n") = .ok s ∧ s.regions = f :: fs ∧
      linesOf "<\n(\n)\n" = before ++ line :: after ∧
      t.stateAfter t.initialState true before = .ok s₁ ∧
      t.scanner.Opens s₁ (matchedLine line.text) before.isEmpty f fs m ∧
      m.stop = (matchedLine line.text).size ∧
      (Scanner.lineStart s false).anchor = some 0 := by
  have hrun : (Registry.empty.register [blockGrammar]).toOption.any (fun r =>
      (r.tokenizerWith "source.block" .default).toOption.any fun t =>
        (t.stateAfter t.initialState true (linesOf "<\n(\n)\n")).toOption.any fun s =>
          s.depth == 1 && (Scanner.lineStart s false).anchor == some 0) = true := by
    decide +kernel
  obtain ⟨r, hr, hrun⟩ := exists_ok_of_any hrun
  obtain ⟨t, ht, hrun⟩ := exists_ok_of_any hrun
  obtain ⟨s, hs, hrun⟩ := exists_ok_of_any hrun
  simp only [Bool.and_eq_true, beq_iff_eq] at hrun
  obtain ⟨hdepth, hanchor⟩ := hrun
  obtain ⟨f, fs, hregions⟩ : ∃ f fs, s.regions = f :: fs :=
    List.exists_cons_of_length_eq_add_one hdepth
  obtain ⟨-, hopening, -⟩ := lineStart_anchor_of_opening ht hs false
  obtain ⟨before, line, after, s₁, s₂, m, hlines, hbefore, -, hopens, -, hend⟩ :=
    hopening f fs hregions
  have hstop : m.stop = (matchedLine line.text).size := by
    by_contra hne
    rw [hanchor, if_neg hne] at hend
    cases hend
  exact ⟨r, t, s, f, fs, before, line, after, s₁, m, hr, ht, hs, hregions, hlines, hbefore, hopens,
    hstop, hanchor⟩

/-- The block was opened two lines before, nothing on the line in between, and still `\G` matches at
the start of the line, where only it lets a rule match. -/
theorem anchor_outlives_next_line :
    ∃ r t s₁ s₂ f fs found, Registry.empty.register [blockGrammar] = .ok r ∧
      r.tokenizerWith "source.block" .default = .ok t ∧
      t.stateAfter t.initialState true (linesOf "<\n") = .ok s₁ ∧
      t.stateAfter t.initialState true (linesOf "<\ny\n") = .ok s₂ ∧ s₂.regions = f :: fs ∧
      (∀ m, ¬ t.scanner.Opens s₁ (matchedLine "y\n".toList) false f fs m) ∧
      (Scanner.lineStart s₂ false).anchor = some 0 ∧
      t.scanner.findNext s₂ (matchedLine "x\n".toList) 0 ⟨false, some 0⟩ = some found ∧
      found.hit.start = 0 ∧
      t.scanner.findNext s₂ (matchedLine "x\n".toList) 0 ⟨false, none⟩ = none := by
  have hrun : (Registry.empty.register [blockGrammar]).toOption.any (fun r =>
      (r.tokenizerWith "source.block" .default).toOption.any fun t =>
        (t.stateAfter t.initialState true (linesOf "<\n")).toOption.any fun s₁ =>
          (t.stateAfter t.initialState true (linesOf "<\ny\n")).toOption.any fun s₂ =>
            (t.scanner.checkWhile (M := Scan) (t.scanner.retokenize stepLimit)
              (matchedLine "y\n".toList) s₁.regions.reverse
              (Scanner.lineStart s₁ false)).toOption.any (fun c =>
                (t.scanner.findNext c.state (matchedLine "y\n".toList) c.pos
                  ⟨c.firstLine, c.anchor⟩).isNone) &&
            s₂.depth == 1 && (Scanner.lineStart s₂ false).anchor == some 0 &&
            (t.scanner.findNext s₂ (matchedLine "x\n".toList) 0 ⟨false, some 0⟩).any
              (·.hit.start == 0) &&
            (t.scanner.findNext s₂ (matchedLine "x\n".toList) 0 ⟨false, none⟩).isNone) = true := by
    decide +kernel
  obtain ⟨r, hr, hrun⟩ := exists_ok_of_any hrun
  obtain ⟨t, ht, hrun⟩ := exists_ok_of_any hrun
  obtain ⟨s₁, hs₁, hrun⟩ := exists_ok_of_any hrun
  obtain ⟨s₂, hs₂, hrun⟩ := exists_ok_of_any hrun
  simp only [Bool.and_eq_true, beq_iff_eq, Option.isNone_iff_eq_none] at hrun
  obtain ⟨⟨⟨⟨hquiet, hdepth⟩, hanchor⟩, hlive⟩, hdead⟩ := hrun
  obtain ⟨c, hc, hnone⟩ := exists_ok_of_any hquiet
  obtain ⟨found, hfound, hstart⟩ := (Option.any_eq_true _ _).1 hlive
  obtain ⟨f, fs, hregions⟩ : ∃ f fs, s₂.regions = f :: fs :=
    List.exists_cons_of_length_eq_add_one hdepth
  exact ⟨r, t, s₁, s₂, f, fs, found, hr, ht, hs₁, hs₂, hregions,
    fun m => Scanner.not_opens_of_findNext hc (Option.isNone_iff_eq_none.1 hnone), hanchor, hfound,
    eq_of_beq hstart, hdead⟩

end Tokenizer

end Scopelight
