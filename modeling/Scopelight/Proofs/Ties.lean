import Scopelight.Proofs.Choice

/-!
# Who wins ties

Of the injected rules that match at the same place, the one whose turn comes first stands for all of
them (`Foremost`), and its precedence alone decides between them and the regular rules
(`foremost_decides_tie`). So where an injection of left precedence matches, the regular rules lose,
unless an injection of right precedence matches there too and has its turn before: then they win
(`left_injection_loses_tie`).
-/

namespace Scopelight

section Lists

variable {α β : Type}

theorem flatMap_eq_append_cons {g : α → List β} {xs : List α} {before after : List β} {y : β}
    (h : xs.flatMap g = before ++ y :: after) :
    ∃ xs₁ x xs₂ ys₁ ys₂, xs = xs₁ ++ x :: xs₂ ∧ g x = ys₁ ++ y :: ys₂ ∧
      before = xs₁.flatMap g ++ ys₁ := by
  induction xs generalizing before with
  | nil => simp at h
  | cons x xs ih =>
    rw [List.flatMap_cons] at h
    rcases append_eq_append_cons h with ⟨rest, hx⟩ | ⟨rest, rfl, hxs⟩
    · exact ⟨[], x, xs, before, rest, rfl, hx, rfl⟩
    · obtain ⟨xs₁, x', xs₂, ys₁, ys₂, rfl, hx', rfl⟩ := ih hxs
      exact ⟨x :: xs₁, x', xs₂, ys₁, ys₂, rfl, hx', by simp⟩

theorem mem_of_append_cons_eq {x y : α} {xs xs' ys ys' : List α}
    (h : xs ++ x :: xs' = ys ++ y :: ys') : y ∈ xs ∨ x = y ∨ x ∈ ys := by
  rcases append_eq_append_cons h with ⟨rest, rfl⟩ | ⟨rest, rfl, hrest⟩
  · exact .inl (by simp)
  · rcases rest with _ | ⟨z, rest⟩
    · exact .inr (.inl (List.cons.inj hrest).1)
    · obtain ⟨rfl, -⟩ := List.cons.inj hrest
      exact .inr (.inr (by simp))

end Lists

namespace Scanner

/-- An injected rule matches here, none whose turn comes before matches at the same place, and none
at all matches earlier. The injections have their turns in order, and so have the rules of each. -/
inductive Foremost (sc : Scanner) (s : State) (line : Array Char) (origin : Nat) (a : Anchors) :
    Precedence → Found → Prop
  | mk {before after : List (Selector × List RuleRef)} {selector : Selector}
      {precedence : Precedence} {refs₁ refs₂ : List RuleRef} {ref : RuleRef} {p : Pattern}
      {m : Regex.Match}
      (hin : sc.injections = before ++ (selector, refs₁ ++ ref :: refs₂) :: after)
      (hselector : selector.matches s.scopes = some precedence) (h : sc.Scans ref p)
      (hm : p.search line origin a = some m)
      (hbefore : ∀ precedence' candidate q m',
        Injected { sc with injections := before } s precedence' candidate q →
        q.search line origin a = some m' → m.start < m'.start)
      (hrefs : ∀ ref' ∈ refs₁, ∀ q m', sc.Scans ref' q →
        q.search line origin a = some m' → m.start < m'.start)
      (hall : ∀ precedence' candidate q m', sc.Injected s precedence' candidate q →
        q.search line origin a = some m' → m.start ≤ m'.start) :
    Foremost sc s line origin a precedence ⟨.rule ref, m⟩

section Foremost

variable {sc : Scanner} {s : State} {line : Array Char} {origin : Nat} {a : Anchors}
  {precedence : Precedence} {candidate : Candidate} {p : Pattern} {f : Found} {m : Regex.Match}

theorem injectedHits_eq_append {cs : List (Precedence × Candidate × Pattern)}
    {before after : List (Precedence × Found)} {i : Precedence × Found}
    (h : injectedHits line origin a cs = before ++ i :: after) :
    ∃ cs₁ p cs₂, cs = cs₁ ++ (i.1, i.2.candidate, p) :: cs₂ ∧
      p.search line origin a = some i.2.hit ∧ injectedHits line origin a cs₁ = before := by
  obtain ⟨cs₁, c, cs₂, hcs, hc, hbefore⟩ := filterMap_eq_append_cons h
  obtain ⟨m, hm, rfl⟩ := Option.map_eq_some_iff.1 hc
  exact ⟨cs₁, c.2.2, cs₂, hcs, hm, hbefore⟩

/-- The candidates before an injected one are those of the injections before its own, and then those
of the rules before it. -/
theorem injected_eq_append {before after : List (Precedence × Candidate × Pattern)}
    (h : sc.injected s.scopes = before ++ (precedence, candidate, p) :: after) :
    ∃ is₁ selector refs₁ ref refs₂ is₂,
      sc.injections = is₁ ++ (selector, refs₁ ++ ref :: refs₂) :: is₂ ∧
      selector.matches s.scopes = some precedence ∧ candidate = .rule ref ∧ sc.Scans ref p ∧
      before = Scanner.injected { sc with injections := is₁ } s.scopes ++
        (sc.scannable refs₁).map (precedence, ·) := by
  obtain ⟨is₁, ⟨selector, refs⟩, is₂, cs₁, cs₂, his, hcs, rfl⟩ := flatMap_eq_append_cons h
  rcases hselector : selector.matches s.scopes with _ | precedence'
  · simp [hselector] at hcs
  · simp only [hselector] at hcs
    obtain ⟨cs₁', rest, hrefs, rfl, hrest⟩ := List.map_eq_append_iff.1 hcs
    obtain ⟨⟨candidate', p'⟩, cs₂', rfl, heq, -⟩ := List.map_eq_cons_iff.1 hrest
    cases heq
    obtain ⟨refs₁, ref, refs₂, rfl, rfl, hp, rfl⟩ := scannable_eq_append hrefs
    exact ⟨is₁, selector, refs₁, ref, refs₂, is₂, his, hselector, rfl, hp, rfl⟩

/-- The first of the earliest in the list of injected candidates is so in the order of turns. -/
theorem foremost_of_argmin
    (h : (injectedHits line origin a (sc.injected s.scopes)).argmin (·.2.hit.start) =
      some (precedence, f)) : sc.Foremost s line origin a precedence f := by
  obtain ⟨found, rest, happend, hlater⟩ := argmin_eq_append h
  obtain ⟨before, p, after, hcs, hm, rfl⟩ := injectedHits_eq_append happend
  obtain ⟨is₁, selector, refs₁, ref, refs₂, is₂, his, hselector, hcandidate, hp, rfl⟩ :=
    injected_eq_append hcs
  obtain ⟨candidate, m⟩ := f
  obtain rfl : candidate = .rule ref := hcandidate
  refine .mk his hselector hp hm ?_ ?_ ?_
  · intro precedence' candidate' q m' hq hm'
    refine hlater (precedence', ⟨candidate', m'⟩) (mem_injectedHits.2 ⟨q, ?_, hm'⟩)
    exact List.mem_append_left _ (mem_injected_iff.2 hq)
  · intro ref' href' q m' hq hm'
    refine hlater (precedence, ⟨.rule ref', m'⟩) (mem_injectedHits.2 ⟨q, ?_, hm'⟩)
    exact List.mem_append_right _ (List.mem_map_of_mem (hq.mem_scannable href'))
  · intro precedence' candidate' q m' hq hm'
    have hmem : (precedence', ⟨candidate', m'⟩) ∈
        injectedHits line origin a (sc.injected s.scopes) :=
      mem_injectedHits.2 ⟨q, mem_injected_iff.2 hq, hm'⟩
    exact List.le_of_mem_argmin (f := fun i : Precedence × Found => i.2.hit.start) hmem h

/-- What is foremost where an injection of left precedence matches has left precedence too, unless
an injection before matches there with right precedence. -/
theorem Foremost.eq_left {before after : List (Selector × List RuleRef)} {selector : Selector}
    {refs : List RuleRef} {ref : RuleRef} (hf : sc.Foremost s line origin a precedence f)
    (hin : sc.injections = before ++ (selector, refs) :: after)
    (hleft : selector.matches s.scopes = some .left) (href : ref ∈ refs) (hp : sc.Scans ref p)
    (hm : p.search line origin a = some m) (hstart : f.hit.start = m.start)
    (hright : ∀ candidate q m', Injected { sc with injections := before } s .right candidate q →
      q.search line origin a = some m' → m.start < m'.start) : precedence = .left := by
  obtain @⟨before', after', selector', _, refs₁, refs₂, ref', p', m', hin', hselector', hp', hm',
    hbefore', -, -⟩ := hf
  simp only at hstart
  -- its injection does not come behind the one of left precedence, which would be foremost then
  rcases mem_of_append_cons_eq (hin.symm.trans hin') with hmem | heq | hmem
  · cases precedence with
    | left => rfl
    | right =>
      have hlt := hright (.rule ref') p' m' (.mk hmem hselector' (by simp) hp') hm'
      omega
  · obtain ⟨rfl, -⟩ := Prod.mk.inj heq
    exact Option.some.inj (hselector'.symm.trans hleft)
  · have hlt := hbefore' .left (.rule ref) p m (.mk hmem hleft href hp) hm
    omega

theorem choose_left {best : Option Found} (h : ∀ b ∈ best, f.hit.start ≤ b.hit.start) :
    choose best (some (.left, f)) = some f := by
  rcases best with _ | b
  · rfl
  · have hle := h b rfl
    have hbeats : f.hit.start < b.hit.start ∨ f.hit.start = b.hit.start := by omega
    simp [choose, hbeats]

theorem choose_right {b : Found} (h : b.hit.start ≤ f.hit.start) :
    choose (some b) (some (.right, f)) = some b := by
  have hnot : ¬ f.hit.start < b.hit.start := by omega
  simp [choose, hnot]

/-- Where an injection of left precedence matches, the injected rule that matches there and has its
turn first decides. If it has left precedence as well, and it has unless an injection before matches
there with right precedence, then it is chosen, and no regular rule is. If it has right precedence,
a regular candidate that matches there is chosen. -/
theorem foremost_decides_tie {before after : List (Selector × List RuleRef)} {selector : Selector}
    {refs : List RuleRef} {ref : RuleRef}
    (hin : sc.injections = before ++ (selector, refs) :: after)
    (hleft : selector.matches s.scopes = some .left) (href : ref ∈ refs) (hp : sc.Scans ref p)
    (hm : p.search line origin a = some m)
    (hearliest : ∀ candidate q m', sc.Offered s candidate q →
      q.search line origin a = some m' → m.start ≤ m'.start) :
    ∃ precedence f, sc.Foremost s line origin a precedence f ∧ f.hit.start = m.start ∧
      ((∀ candidate q m', Injected { sc with injections := before } s .right candidate q →
        q.search line origin a = some m' → m.start < m'.start) → precedence = .left) ∧
      (precedence = .left → sc.findNext s line origin a = some f) ∧
      (precedence = .right → origin ≤ m.start → ∀ candidate q m', sc.Regular s candidate q →
        q.search line origin a = some m' → m'.start = m.start →
        ∃ g, sc.First s line origin a g ∧ sc.findNext s line origin a = some g) := by
  have hinjected : sc.Injected s .left (.rule ref) p := .mk (by simp [hin]) hleft href hp
  have hmem : (.left, ⟨.rule ref, m⟩) ∈ injectedHits line origin a (sc.injected s.scopes) :=
    mem_injectedHits.2 ⟨p, mem_injected_iff.2 hinjected, hm⟩
  obtain ⟨⟨precedence, f⟩, hf, hle⟩ :=
    exists_argmin_le (f := fun i : Precedence × Found => i.2.hit.start) hmem
  obtain ⟨q, hq, hfound⟩ := mem_injectedHits.1 (List.argmin_mem hf)
  have hstart : f.hit.start = m.start :=
    Nat.le_antisymm hle (hearliest _ _ _ (.inr ⟨precedence, mem_injected_iff.1 hq⟩) hfound)
  have hnext : sc.findNext s line origin a =
      choose (earliest line origin a none (sc.regular s)) (some (precedence, f)) := by
    rw [findNext, earliestInjected_eq_argmin, ← hf]
    simp
  have hregular : ∀ candidate q m', sc.Regular s candidate q →
      q.search line origin a = some m' → m.start ≤ m'.start :=
    fun candidate q m' hq hm' => hearliest candidate q m' (.inl hq) hm'
  have hforemost := foremost_of_argmin hf
  refine ⟨precedence, f, hforemost, hstart, hforemost.eq_left hin hleft href hp hm hstart, ?_, ?_⟩
  · rintro rfl
    rw [hnext]
    refine choose_left fun b hb => ?_
    obtain hnone | ⟨q', hq', hsearch⟩ := earliest_mem hb
    · cases hnone
    · rw [hstart]
      exact hregular _ _ _ (mem_regular_iff.1 hq') hsearch
  · rintro rfl horigin candidate' q' m' hq' hm' htie
    have hforward : StartsFrom line origin a (sc.regular s) := fun c hc m'' hm'' =>
      Nat.le_trans horigin (hregular _ _ _ (mem_regular_iff.1 hc) hm'')
    have hmem' : ⟨candidate', m'⟩ ∈ hits line origin a (sc.regular s) :=
      mem_hits.2 ⟨q', mem_regular_iff.2 hq', hm'⟩
    obtain ⟨b, hb, hle'⟩ := exists_argmin_le (f := fun f : Found => f.hit.start) hmem'
    refine ⟨b, first_of_argmin hb, ?_⟩
    have hbefore : b.hit.start ≤ f.hit.start := by
      simp only at hle'
      omega
    rw [hnext, earliest_eq_argmin none hforward (by simp), Option.toList_none, List.nil_append, hb]
    exact choose_right hbefore

end Foremost

end Scanner

/-- Two grammars with one rule each that matches the same text. The first one has an injection of
its own for it, and the second one injects its rule; the selectors are given. -/
def tieGrammars (own foreign : String) : List Descriptor :=
  [{ Descriptor.empty with
      scopeName := "source.host"
      patterns := [{ RuleSpec.empty with
        name := some "regular"
        matchPattern := some "ab" }]
      injections := [(own, { RuleSpec.empty with
        name := some "injected"
        matchPattern := some "ab" })] },
    { Descriptor.empty with
      scopeName := "source.guest"
      patterns := [{ RuleSpec.empty with
        name := some "injected"
        matchPattern := some "ab" }]
      injectionSelector := some foreign }]

/-- The injection of left precedence is chosen, whatever the other grammar injects. -/
theorem own_left_injection_wins :
    ∃ r t f, Registry.empty.register (tieGrammars "L:source.host" "R:source.host") = .ok r ∧
      r.tokenizerWith "source.host" .default = .ok t ∧
      (t.scanner.injected t.initialState.scopes).map (·.1) = [.left, .right] ∧
      t.scanner.Foremost t.initialState (matchedLine "ab".toList) 0 ⟨true, none⟩ .left f ∧
      t.scanner.findNext t.initialState (matchedLine "ab".toList) 0 ⟨true, none⟩ = some f := by
  have hrun : (Registry.empty.register (tieGrammars "L:source.host" "R:source.host")).toOption.any
      (fun r => (r.tokenizerWith "source.host" .default).toOption.any fun t =>
        ((t.scanner.injected t.initialState.scopes).map (·.1) == [.left, .right]) &&
        (t.scanner.injections.head?.any fun i => i.1.matches t.initialState.scopes == some .left &&
          i.2.head?.any fun ref =>
            ((t.scanner.registry.rule? ref).bind (·.scanPattern?)).any fun p =>
              (p.search (matchedLine "ab".toList) 0 ⟨true, none⟩).any (·.start == 0))) = true := by
    decide +kernel
  obtain ⟨r, hr, hrun⟩ := exists_ok_of_any hrun
  obtain ⟨t, ht, hrun⟩ := exists_ok_of_any hrun
  simp only [Bool.and_eq_true, beq_iff_eq, Option.any_eq_true] at hrun
  obtain ⟨hprecedences, ⟨selector, refs⟩, hin, hleft, ref, href, p, hp, m, hm, hstart⟩ := hrun
  obtain ⟨after, hin⟩ : ∃ after, t.scanner.injections = [] ++ (selector, refs) :: after :=
    List.head?_eq_some_iff.1 hin
  obtain ⟨rule, hrule, hp⟩ := Option.bind_eq_some_iff.1 hp
  have hfirst : ∀ candidate q m', t.scanner.Offered t.initialState candidate q →
      q.search (matchedLine "ab".toList) 0 ⟨true, none⟩ = some m' → m.start ≤ m'.start :=
    fun _ _ m' _ _ => hstart ▸ Nat.zero_le m'.start
  obtain ⟨precedence, f, hf, -, hleftmost, hchosen, -⟩ :=
    Scanner.foremost_decides_tie hin hleft (List.mem_of_mem_head? href)
      ⟨rule, hrule, hp⟩ hm hfirst
  obtain rfl := hleftmost fun candidate q m' hq => by
    obtain ⟨hin', -, -, -⟩ := hq
    cases hin'
  exact ⟨r, t, f, hr, ht, hprecedences, hf, hchosen rfl⟩

/-- An injection of right precedence before it makes an injection of left precedence lose: the rule
that is chosen is not injected, though both match at the start of the line. -/
theorem left_injection_loses_tie :
    ∃ r t f, Registry.empty.register (tieGrammars "R:source.host" "L:source.host") = .ok r ∧
      r.tokenizerWith "source.host" .default = .ok t ∧
      (∃ candidate p m, t.scanner.Injected t.initialState .left candidate p ∧
        p.search (matchedLine "ab".toList) 0 ⟨true, none⟩ = some m ∧
        ∀ candidate' q m', t.scanner.Offered t.initialState candidate' q →
          q.search (matchedLine "ab".toList) 0 ⟨true, none⟩ = some m' → m.start ≤ m'.start) ∧
      t.scanner.findNext t.initialState (matchedLine "ab".toList) 0 ⟨true, none⟩ = some f ∧
      (∃ p, t.scanner.Regular t.initialState f.candidate p) ∧
      ∀ precedence p, ¬ t.scanner.Injected t.initialState precedence f.candidate p := by
  have hrun : (Registry.empty.register (tieGrammars "R:source.host" "L:source.host")).toOption.any
      (fun r => (r.tokenizerWith "source.host" .default).toOption.any fun t =>
        ((t.scanner.injected t.initialState.scopes).any fun c => c.1 == .left &&
          (c.2.2.search (matchedLine "ab".toList) 0 ⟨true, none⟩).any (·.start == 0)) &&
        (t.scanner.findNext t.initialState (matchedLine "ab".toList) 0 ⟨true, none⟩).any fun f =>
          ((t.scanner.regular t.initialState).any fun c => c.1 == f.candidate) &&
          (t.scanner.injected t.initialState.scopes).all fun c => c.2.1 != f.candidate) = true := by
    decide +kernel
  obtain ⟨r, hr, hrun⟩ := exists_ok_of_any hrun
  obtain ⟨t, ht, hrun⟩ := exists_ok_of_any hrun
  simp only [Bool.and_eq_true, beq_iff_eq, Option.any_eq_true, List.any_eq_true, List.all_eq_true,
    bne_iff_ne] at hrun
  obtain ⟨⟨⟨-, candidate, p⟩, hin, rfl, m, hm, hstart⟩, f, hf, ⟨⟨candidate', q⟩, hreg, rfl⟩,
    hnot⟩ := hrun
  refine ⟨r, t, f, hr, ht, ⟨candidate, p, m, Scanner.mem_injected_iff.1 hin, hm, ?_⟩, hf,
    ⟨q, Scanner.mem_regular_iff.1 hreg⟩, ?_⟩
  · intro _ _ m' _ _
    rw [hstart]
    exact Nat.zero_le _
  · intro precedence p' h
    exact hnot _ (Scanner.mem_injected_iff.2 h) rfl

end Scopelight
