import Mathlib.Data.List.MinMax
import Scopelight.Proofs.Memory
import Scopelight.Proofs.Step

/-!
# The match that wins

A search keeps the earliest match it has met, and goes on no further once it starts where the search
does. As no match starts before that, this is the first of the earliest matches of all candidates
(`earliest_eq_argmin`). So the match that is applied starts earliest of all that are offered. If it is
not injected, no candidate whose turn comes before it matches at the same place (`First`): the end
pattern has its turn before the nested rules or after them, and these have theirs in order
(`findNext_wins`).
-/

namespace Scopelight

section Argmin

variable {α : Type} {f : α → Nat} {x y : α} {xs : List α}

theorem argmin_cons_cons (f : α → Nat) (x y : α) (xs : List α) :
    (x :: y :: xs).argmin f = ((if f y < f x then y else x) :: xs).argmin f := by
  simp only [List.argmin, List.foldl_cons, List.argAux]
  split <;> rfl

/-- The element that was kept so far is given up only for a smaller one. -/
theorem argmin_keep (f : α → Nat) (best : Option α) (x : α) (xs : List α) :
    (best.toList ++ x :: xs).argmin f =
      ((if best.all (f x < f ·) then some x else best).toList ++ xs).argmin f := by
  rcases best with _ | b
  · simp
  · by_cases hlt : f x < f b
    · simp [argmin_cons_cons, hlt]
    · simp [argmin_cons_cons, hlt]

theorem argmin_cons_of_le (h : ∀ y ∈ xs, f x ≤ f y) : (x :: xs).argmin f = some x := by
  rw [List.argmin_cons]
  rcases hm : xs.argmin f with _ | m
  · rfl
  · have hle := h m (List.argmin_mem hm)
    simp only [if_neg (Nat.not_lt.2 hle)]

theorem exists_argmin_le (hx : x ∈ xs) : ∃ y, xs.argmin f = some y ∧ f y ≤ f x := by
  rcases hm : xs.argmin f with _ | y
  · rw [List.argmin_eq_none.1 hm] at hx
    cases hx
  · exact ⟨y, rfl, List.le_of_mem_argmin hx hm⟩

theorem argmin_eq_append (h : xs.argmin f = some x) :
    ∃ before after, xs = before ++ x :: after ∧ ∀ y ∈ before, f x < f y := by
  induction xs using List.reverseRecOn with
  | nil => simp at h
  | append_singleton xs y ih =>
    rw [List.argmin_concat] at h
    rcases hm : xs.argmin f with _ | m
    · rw [hm] at h
      obtain rfl : y = x := by simpa using h
      exact ⟨[], [], by simp [List.argmin_eq_none.1 hm], by simp⟩
    · rw [hm] at h
      simp only at h
      by_cases hlt : f y < f m
      · obtain rfl : y = x := by simpa [hlt] using h
        refine ⟨xs, [], rfl, fun z hz => ?_⟩
        have hle : f m ≤ f z := List.le_of_mem_argmin hz hm
        omega
      · obtain rfl : m = x := by simpa [hlt] using h
        obtain ⟨before, after, rfl, hbefore⟩ := ih hm
        exact ⟨before, after ++ [y], by simp, hbefore⟩

end Argmin

theorem filterMap_eq_append_cons {α β : Type} {g : α → Option β} {xs : List α}
    {before after : List β} {y : β} (h : xs.filterMap g = before ++ y :: after) :
    ∃ xs₁ x xs₂, xs = xs₁ ++ x :: xs₂ ∧ g x = some y ∧ xs₁.filterMap g = before := by
  obtain ⟨xs₁, rest, rfl, hbefore, hrest⟩ := List.filterMap_eq_append_iff.1 h
  obtain ⟨skipped, x, xs₂, rfl, hskipped, hx, -⟩ := List.filterMap_eq_cons_iff.1 hrest
  have hnone : skipped.filterMap g = [] := List.filterMap_eq_nil_iff.2 hskipped
  refine ⟨xs₁ ++ skipped, x, xs₂, by simp, hx, ?_⟩
  rw [List.filterMap_append, hbefore, hnone, List.append_nil]

theorem append_eq_append_cons {α : Type} {xs ys before after : List α} {x : α}
    (h : xs ++ ys = before ++ x :: after) :
    (∃ rest, xs = before ++ x :: rest) ∨ ∃ rest, before = xs ++ rest ∧ ys = rest ++ x :: after := by
  rcases List.append_eq_append_iff.1 h with ⟨rest, hbefore, hys⟩ | ⟨rest, hxs, hrest⟩
  · exact .inr ⟨rest, hbefore, hys⟩
  · rcases rest with _ | ⟨y, rest⟩
    · exact .inr ⟨[], by simpa using hxs.symm, by simpa using hrest.symm⟩
    · obtain ⟨rfl, -⟩ := List.cons.inj hrest
      exact .inl ⟨rest, hxs⟩

namespace Scanner

/-- All matches of candidates, in the order of the candidates. -/
def hits (line : Array Char) (origin : Nat) (a : Anchors) (cs : List (Candidate × Pattern)) :
    List Found :=
  cs.filterMap fun c => (c.2.search line origin a).map (Found.mk c.1)

/-- All matches of injected candidates, in the order of the candidates. -/
def injectedHits (line : Array Char) (origin : Nat) (a : Anchors)
    (cs : List (Precedence × Candidate × Pattern)) : List (Precedence × Found) :=
  cs.filterMap fun c => (c.2.2.search line origin a).map fun m => (c.1, ⟨c.2.1, m⟩)

/-- No match of these candidates starts before the search does. -/
def StartsFrom (line : Array Char) (origin : Nat) (a : Anchors)
    (cs : List (Candidate × Pattern)) : Prop :=
  ∀ c ∈ cs, ∀ m, c.2.search line origin a = some m → origin ≤ m.start

section Search

variable {line : Array Char} {origin : Nat} {a : Anchors}

theorem mem_hits {cs : List (Candidate × Pattern)} {f : Found} :
    f ∈ hits line origin a cs ↔
      ∃ p, (f.candidate, p) ∈ cs ∧ p.search line origin a = some f.hit := by
  unfold hits
  simp only [List.mem_filterMap, Option.map_eq_some_iff, Prod.exists]
  constructor
  · rintro ⟨candidate, p, hmem, m, hm, rfl⟩
    exact ⟨p, hmem, hm⟩
  · rintro ⟨p, hmem, hm⟩
    exact ⟨f.candidate, p, hmem, f.hit, hm, rfl⟩

theorem mem_injectedHits {cs : List (Precedence × Candidate × Pattern)}
    {i : Precedence × Found} : i ∈ injectedHits line origin a cs ↔
      ∃ p, (i.1, i.2.candidate, p) ∈ cs ∧ p.search line origin a = some i.2.hit := by
  unfold injectedHits
  simp only [List.mem_filterMap, Option.map_eq_some_iff, Prod.exists]
  constructor
  · rintro ⟨precedence, candidate, p, hmem, m, hm, rfl⟩
    exact ⟨p, hmem, hm⟩
  · rintro ⟨p, hmem, hm⟩
    exact ⟨i.1, i.2.candidate, p, hmem, i.2.hit, hm, rfl⟩

theorem hits_eq_nil {cs : List (Candidate × Pattern)} :
    hits line origin a cs = [] ↔ ∀ c ∈ cs, c.2.search line origin a = none := by
  simp [hits, List.filterMap_eq_nil_iff]

theorem injectedHits_eq_nil {cs : List (Precedence × Candidate × Pattern)} :
    injectedHits line origin a cs = [] ↔ ∀ c ∈ cs, c.2.2.search line origin a = none := by
  simp [injectedHits, List.filterMap_eq_nil_iff]

theorem hits_eq_append {cs : List (Candidate × Pattern)} {before after : List Found} {f : Found}
    (h : hits line origin a cs = before ++ f :: after) :
    ∃ cs₁ p cs₂, cs = cs₁ ++ (f.candidate, p) :: cs₂ ∧ p.search line origin a = some f.hit ∧
      hits line origin a cs₁ = before := by
  obtain ⟨cs₁, c, cs₂, hcs, hc, hbefore⟩ := filterMap_eq_append_cons h
  obtain ⟨m, hm, rfl⟩ := Option.map_eq_some_iff.1 hc
  exact ⟨cs₁, c.2, cs₂, hcs, hm, hbefore⟩

theorem StartsFrom.le_of_mem_hits {cs : List (Candidate × Pattern)}
    (h : StartsFrom line origin a cs) {f : Found} (hf : f ∈ hits line origin a cs) :
    origin ≤ f.hit.start := by
  obtain ⟨p, hmem, hm⟩ := mem_hits.1 hf
  exact h _ hmem _ hm

/-- To stop at a match that starts where the search does changes nothing. -/
theorem earliest_eq_argmin {cs : List (Candidate × Pattern)} (best : Option Found)
    (hcs : StartsFrom line origin a cs) (hbest : ∀ f ∈ best, origin ≤ f.hit.start) :
    earliest line origin a best cs =
      (best.toList ++ hits line origin a cs).argmin (·.hit.start) := by
  induction cs generalizing best with
  | nil => rcases best with _ | b <;> simp [earliest, hits]
  | cons c cs ih =>
    have hrest : StartsFrom line origin a cs := fun c' hc' => hcs c' (List.mem_cons_of_mem c hc')
    unfold earliest
    by_cases hexit : best.any (·.hit.start == origin) = true
    · obtain ⟨b, rfl, hb⟩ := (Option.any_eq_true _ _).1 hexit
      rw [if_pos hexit, Option.toList_some, List.singleton_append]
      refine (argmin_cons_of_le fun f hf => ?_).symm
      rw [eq_of_beq hb]
      exact hcs.le_of_mem_hits hf
    rw [if_neg hexit]
    rcases hm : c.2.search line origin a with _ | m
    · have hhits : hits line origin a (c :: cs) = hits line origin a cs := by simp [hits, hm]
      rw [hhits]
      exact ih best hrest hbest
    · have hhits : hits line origin a (c :: cs) = ⟨c.1, m⟩ :: hits line origin a cs := by
        simp [hits, hm]
      have hle : origin ≤ m.start := hcs c List.mem_cons_self m hm
      rw [hhits, argmin_keep]
      by_cases hkeep : best.all (m.start < ·.hit.start) = true
      · simp only [if_pos hkeep]
        exact ih (some ⟨c.1, m⟩) hrest (by simpa using hle)
      · simp only [if_neg hkeep]
        exact ih best hrest hbest

theorem earliestInjected_eq_argmin {cs : List (Precedence × Candidate × Pattern)}
    (best : Option (Precedence × Found)) : earliestInjected line origin a best cs =
      (best.toList ++ injectedHits line origin a cs).argmin (·.2.hit.start) := by
  induction cs generalizing best with
  | nil => rcases best with _ | b <;> simp [earliestInjected, injectedHits]
  | cons c cs ih =>
    unfold earliestInjected
    rcases hm : c.2.2.search line origin a with _ | m
    · have hhits : injectedHits line origin a (c :: cs) = injectedHits line origin a cs := by
        simp [injectedHits, hm]
      rw [hhits]
      exact ih best
    · have hhits : injectedHits line origin a (c :: cs) =
          (c.1, ⟨c.2.1, m⟩) :: injectedHits line origin a cs := by simp [injectedHits, hm]
      rw [hhits, argmin_keep]
      by_cases hkeep : best.all (m.start < ·.2.hit.start) = true
      · simp only [if_pos hkeep]
        exact ih (some (c.1, ⟨c.2.1, m⟩))
      · simp only [if_neg hkeep]
        exact ih best

end Search

/-! ## What may match -/

/-- The end pattern of the innermost region, unless that is a while region. -/
def Ending (sc : Scanner) (s : State) (p : Pattern) : Prop :=
  ∃ r, sc.registry.rule? s.top.rule = some (.region r) ∧ s.top.ending = some p

/-- The pattern by which a rule is found. -/
def Scans (sc : Scanner) (ref : RuleRef) (p : Pattern) : Prop :=
  ∃ rule, sc.registry.rule? ref = some rule ∧ rule.scanPattern? = some p

/-- The end pattern of the innermost region and the rules that can match inside it. -/
inductive Regular (sc : Scanner) (s : State) : Candidate → Pattern → Prop
  | ending {p : Pattern} (h : sc.Ending s p) : Regular sc s .ending p
  | nested {ref : RuleRef} {p : Pattern} (href : ref ∈ sc.nested s.top.rule)
      (h : sc.Scans ref p) : Regular sc s (.rule ref) p

/-- The rules of injections whose selectors match the scopes between the delimiters. -/
inductive Injected (sc : Scanner) (s : State) : Precedence → Candidate → Pattern → Prop
  | mk {selector : Selector} {precedence : Precedence} {refs : List RuleRef} {ref : RuleRef}
      {p : Pattern} (hin : (selector, refs) ∈ sc.injections)
      (hm : selector.matches s.scopes = some precedence) (href : ref ∈ refs)
      (h : sc.Scans ref p) : Injected sc s precedence (.rule ref) p

def Offered (sc : Scanner) (s : State) (candidate : Candidate) (p : Pattern) : Prop :=
  sc.Regular s candidate p ∨ ∃ precedence, sc.Injected s precedence candidate p

/-- The end pattern has its turn after the nested rules: the configuration says so, or it leaves it to
the region, which says so. -/
def EndsLast (sc : Scanner) (s : State) : Prop :=
  sc.endPriority = .alwaysLast ∨ sc.endPriority = .declared ∧
    ∃ rule, sc.registry.rule? s.top.rule = some rule ∧ rule.closingLast = true

/-- No candidate whose turn comes before that of the match matches where it does. -/
inductive First (sc : Scanner) (s : State) (line : Array Char) (origin : Nat) (a : Anchors) :
    Found → Prop
  | ending {p : Pattern} {m : Regex.Match} (h : sc.Ending s p)
      (hm : p.search line origin a = some m)
      (hnested : sc.EndsLast s → ∀ ref ∈ sc.nested s.top.rule, ∀ q m', sc.Scans ref q →
        q.search line origin a = some m' → m.start < m'.start) :
    First sc s line origin a ⟨.ending, m⟩
  | nested {before after : List RuleRef} {ref : RuleRef} {p : Pattern} {m : Regex.Match}
      (hn : sc.nested s.top.rule = before ++ ref :: after) (h : sc.Scans ref p)
      (hm : p.search line origin a = some m)
      (hbefore : ∀ ref' ∈ before, ∀ q m', sc.Scans ref' q →
        q.search line origin a = some m' → m.start < m'.start)
      (hending : ¬ sc.EndsLast s → ∀ q m', sc.Ending s q →
        q.search line origin a = some m' → m.start < m'.start) :
    First sc s line origin a ⟨.rule ref, m⟩

section Offered

variable {sc : Scanner} {s : State} {line : Array Char} {origin : Nat} {a : Anchors}
  {candidate : Candidate} {p : Pattern} {f : Found}

theorem endLast_iff : sc.endLast s = true ↔ sc.EndsLast s := by
  unfold endLast EndsLast EndPriority.endLast
  rcases hr : sc.registry.rule? s.top.rule with _ | rule <;> cases sc.endPriority <;> simp

theorem Scans.mem_scannable {refs : List RuleRef} {ref : RuleRef} (h : sc.Scans ref p)
    (href : ref ∈ refs) : (.rule ref, p) ∈ sc.scannable refs := by
  obtain ⟨rule, hr, hp⟩ := h
  exact List.mem_filterMap.2 ⟨ref, href, by simp [hr, hp]⟩

theorem Ending.mem_endCandidate (h : sc.Ending s p) : (.ending, p) ∈ sc.endCandidate s := by
  obtain ⟨r, hr, hp⟩ := h
  simp [endCandidate, hr, hp]

theorem ending_of_mem (h : (candidate, p) ∈ sc.endCandidate s) :
    candidate = .ending ∧ sc.Ending s p := by
  obtain ⟨r, hc, hr, hp⟩ := mem_endCandidate h
  exact ⟨hc, r, hr, hp⟩

theorem mem_regular_iff : (candidate, p) ∈ sc.regular s ↔ sc.Regular s candidate p := by
  constructor
  · intro h
    rcases mem_regular h with h | h
    · obtain ⟨rfl, hp⟩ := ending_of_mem h
      exact .ending hp
    · obtain ⟨ref, href, rule, rfl, hr, hp⟩ := mem_scannable h
      exact .nested href ⟨rule, hr, hp⟩
  · intro h
    have hmem : (candidate, p) ∈ sc.endCandidate s ∨
        (candidate, p) ∈ sc.scannable (sc.nested s.top.rule) := by
      cases h with
      | ending h => exact .inl h.mem_endCandidate
      | nested href h => exact .inr (h.mem_scannable href)
    simp only [regular]
    split_ifs <;> simp only [List.mem_append]
    · exact hmem.symm
    · exact hmem

theorem mem_injected_iff {precedence : Precedence} :
    (precedence, candidate, p) ∈ sc.injected s.scopes ↔
      sc.Injected s precedence candidate p := by
  unfold injected
  constructor
  · intro h
    obtain ⟨⟨selector, refs⟩, hin, h⟩ := List.mem_flatMap.1 h
    rcases hm : selector.matches s.scopes with _ | precedence'
    · simp [hm] at h
    · simp only [hm, List.mem_map, Prod.mk.injEq] at h
      obtain ⟨c, hc, rfl, rfl⟩ := h
      obtain ⟨ref, href, rule, rfl, hr, hp⟩ := mem_scannable hc
      exact .mk hin hm href ⟨rule, hr, hp⟩
  · intro h
    obtain ⟨hin, hm, href, h⟩ := h
    refine List.mem_flatMap.2 ⟨_, hin, ?_⟩
    simp only [hm]
    exact List.mem_map_of_mem (h.mem_scannable href)

/-! ## The match that is applied -/

theorem findNext_eq (h : StartsFrom line origin a (sc.regular s)) :
    sc.findNext s line origin a =
      choose ((hits line origin a (sc.regular s)).argmin (·.hit.start))
        ((injectedHits line origin a (sc.injected s.scopes)).argmin (·.2.hit.start)) := by
  unfold findNext
  rw [earliest_eq_argmin none h (by simp), earliestInjected_eq_argmin none]
  simp

theorem choose_eq_none {best : Option Found} {i : Option (Precedence × Found)} :
    choose best i = none ↔ best = none ∧ i = none := by
  rcases best with _ | b <;> rcases i with _ | ⟨precedence, i⟩ <;> simp [choose]
  split_ifs <;> simp

/-- The regular match is chosen if it starts first or wins the tie, and else the injected one. -/
theorem choose_cases {best : Option Found} {i : Option (Precedence × Found)}
    (h : choose best i = some f) :
    (best = some f ∧ ∀ j ∈ i, f.hit.start < j.2.hit.start ∨
      f.hit.start = j.2.hit.start ∧ j.1 = .right) ∨
    ∃ precedence, i = some (precedence, f) ∧ ∀ b ∈ best, f.hit.start < b.hit.start ∨
      f.hit.start = b.hit.start ∧ precedence = .left := by
  rcases best with _ | b <;> rcases i with _ | ⟨precedence, i⟩ <;> simp only [choose] at h
  · cases h
  · obtain rfl := Option.some.inj h
    exact .inr ⟨precedence, rfl, by simp⟩
  · obtain rfl := Option.some.inj h
    exact .inl ⟨rfl, by simp⟩
  · by_cases hbeats : i.hit.start < b.hit.start ∨ i.hit.start = b.hit.start ∧ precedence = .left
    · rw [if_pos hbeats] at h
      obtain rfl := Option.some.inj h
      exact .inr ⟨precedence, rfl, by simpa using hbeats⟩
    · rw [if_neg hbeats] at h
      obtain rfl := Option.some.inj h
      refine .inl ⟨rfl, ?_⟩
      cases precedence <;> simp at hbeats ⊢ <;> omega

theorem findNext_eq_none_iff (h : StartsFrom line origin a (sc.regular s)) :
    sc.findNext s line origin a = none ↔
      ∀ candidate p, sc.Offered s candidate p → p.search line origin a = none := by
  rw [findNext_eq h, choose_eq_none, List.argmin_eq_none, List.argmin_eq_none, hits_eq_nil,
    injectedHits_eq_nil]
  constructor
  · rintro ⟨hregular, hinjected⟩ candidate p (ho | ⟨precedence, ho⟩)
    · exact hregular _ (mem_regular_iff.2 ho)
    · exact hinjected _ (mem_injected_iff.2 ho)
  · intro hnone
    exact ⟨fun c hc => hnone _ _ (.inl (mem_regular_iff.1 hc)),
      fun c hc => hnone _ _ (.inr ⟨_, mem_injected_iff.1 hc⟩)⟩

theorem le_of_findNext (h : StartsFrom line origin a (sc.regular s))
    (hf : sc.findNext s line origin a = some f) (ho : sc.Offered s candidate p)
    {m : Regex.Match} (hm : p.search line origin a = some m) : f.hit.start ≤ m.start := by
  rw [findNext_eq h] at hf
  rcases ho with ho | ⟨precedence, ho⟩
  · have hmem : ⟨candidate, m⟩ ∈ hits line origin a (sc.regular s) :=
      mem_hits.2 ⟨p, mem_regular_iff.2 ho, hm⟩
    obtain ⟨b, hb, hle⟩ := exists_argmin_le (f := fun f : Found => f.hit.start) hmem
    rcases choose_cases hf with ⟨hbest, -⟩ | ⟨precedence, -, hbeats⟩
    · rw [hb] at hbest
      obtain rfl := Option.some.inj hbest
      exact hle
    · have hlt := hbeats b hb
      simp only at hle
      omega
  · have hmem : (precedence, ⟨candidate, m⟩) ∈ injectedHits line origin a (sc.injected s.scopes) :=
      mem_injectedHits.2 ⟨p, mem_injected_iff.2 ho, hm⟩
    obtain ⟨j, hj, hle⟩ := exists_argmin_le (f := fun i : Precedence × Found => i.2.hit.start) hmem
    rcases choose_cases hf with ⟨-, hbeats⟩ | ⟨precedence, hbest, -⟩
    · have hlt := hbeats j hj
      simp only at hle
      omega
    · rw [hj] at hbest
      obtain rfl := Option.some.inj hbest
      exact hle

theorem scannable_eq_append {refs : List RuleRef} {before after : List (Candidate × Pattern)}
    (h : sc.scannable refs = before ++ (candidate, p) :: after) :
    ∃ refs₁ ref refs₂, refs = refs₁ ++ ref :: refs₂ ∧ candidate = .rule ref ∧ sc.Scans ref p ∧
      sc.scannable refs₁ = before := by
  obtain ⟨refs₁, ref, refs₂, hrefs, href, hbefore⟩ := filterMap_eq_append_cons h
  obtain ⟨q, hq, heq⟩ := Option.map_eq_some_iff.1 href
  obtain ⟨rule, hr, hp⟩ := Option.bind_eq_some_iff.1 hq
  cases heq
  exact ⟨refs₁, ref, refs₂, hrefs, rfl, ⟨rule, hr, hp⟩, hbefore⟩

/-- The first of the earliest in the list of candidates is so in the order of their turns. -/
theorem first_of_regular {before after : List (Candidate × Pattern)} {m : Regex.Match}
    (hcs : sc.regular s = before ++ (candidate, p) :: after)
    (hm : p.search line origin a = some m)
    (hlater : ∀ c ∈ before, ∀ m', c.2.search line origin a = some m' → m.start < m'.start) :
    sc.First s line origin a ⟨candidate, m⟩ := by
  unfold regular at hcs
  by_cases hlast : sc.endLast s = true
  · simp only [if_pos hlast] at hcs
    rcases append_eq_append_cons hcs with ⟨rest, hrules⟩ | ⟨rest, hbefore, hend⟩
    · obtain ⟨refs₁, ref, refs₂, hn, rfl, hp, rfl⟩ := scannable_eq_append hrules
      refine .nested hn hp hm (fun ref' href' q m' hq hm' => ?_) fun hnot => ?_
      · exact hlater (.rule ref', q) (hq.mem_scannable href') m' hm'
      · exact absurd (endLast_iff.1 hlast) hnot
    · have hmem : (candidate, p) ∈ sc.endCandidate s := by simp [hend]
      obtain ⟨rfl, hp⟩ := ending_of_mem hmem
      refine .ending hp hm fun _ ref href q m' hq hm' => hlater (.rule ref, q) ?_ m' hm'
      rw [hbefore]
      exact List.mem_append_left _ (hq.mem_scannable href)
  · simp only [if_neg hlast] at hcs
    rcases append_eq_append_cons hcs with ⟨rest, hend⟩ | ⟨rest, hbefore, hrules⟩
    · have hmem : (candidate, p) ∈ sc.endCandidate s := by simp [hend]
      obtain ⟨rfl, hp⟩ := ending_of_mem hmem
      exact .ending hp hm fun hends => absurd (endLast_iff.2 hends) hlast
    · obtain ⟨refs₁, ref, refs₂, hn, rfl, hp, rfl⟩ := scannable_eq_append hrules
      refine .nested hn hp hm (fun ref' href' q m' hq hm' => ?_) fun _ q m' hq hm' => ?_
      · refine hlater (.rule ref', q) ?_ m' hm'
        rw [hbefore]
        exact List.mem_append_right _ (hq.mem_scannable href')
      · refine hlater (.ending, q) ?_ m' hm'
        rw [hbefore]
        exact List.mem_append_left _ hq.mem_endCandidate

theorem first_of_argmin
    (h : (hits line origin a (sc.regular s)).argmin (·.hit.start) = some f) :
    sc.First s line origin a f := by
  obtain ⟨found, rest, happend, hlater⟩ := argmin_eq_append h
  obtain ⟨before, p, after, hcs, hm, rfl⟩ := hits_eq_append happend
  refine first_of_regular hcs hm fun c hc m hm => ?_
  exact hlater ⟨c.1, m⟩ (mem_hits.2 ⟨c.2, hc, hm⟩)

theorem findNext_first (h : StartsFrom line origin a (sc.regular s))
    (hf : sc.findNext s line origin a = some f) :
    sc.First s line origin a f ∨
      ∃ precedence p, sc.Injected s precedence f.candidate p ∧
        p.search line origin a = some f.hit ∧
        ∀ candidate q m, sc.Regular s candidate q → q.search line origin a = some m →
          f.hit.start < m.start ∨ f.hit.start = m.start ∧ precedence = .left := by
  rw [findNext_eq h] at hf
  rcases choose_cases hf with ⟨hbest, -⟩ | ⟨precedence, hi, hbeats⟩
  · exact .inl (first_of_argmin hbest)
  · right
    obtain ⟨p, hin, hm⟩ := mem_injectedHits.1 (List.argmin_mem hi)
    refine ⟨precedence, p, mem_injected_iff.1 hin, hm, fun candidate q m hq hm => ?_⟩
    have hmem : ⟨candidate, m⟩ ∈ hits line origin a (sc.regular s) :=
      mem_hits.2 ⟨q, mem_regular_iff.2 hq, hm⟩
    obtain ⟨b, hb, hle⟩ := exists_argmin_le (f := fun f : Found => f.hit.start) hmem
    have hlt := hbeats b hb
    simp only at hle
    rcases hlt with hlt | ⟨heq, hleft⟩
    · exact .inl (Nat.lt_of_lt_of_le hlt hle)
    · rw [← heq] at hle
      exact (Nat.lt_or_eq_of_le hle).imp_right fun heq => ⟨heq, hleft⟩

theorem First.regular (h : sc.First s line origin a f) :
    ∃ p, sc.Regular s f.candidate p ∧ p.search line origin a = some f.hit := by
  cases h with
  | ending h hm => exact ⟨_, .ending h, hm⟩
  | nested hn h hm => exact ⟨_, .nested (by simp [hn]) h, hm⟩

/-- The match that is applied is the one that an exhaustive search gives. It is missing only if nothing
that is offered matches, and it starts earliest of all that is offered. Either it is the first of the
earliest in the order of the candidates that are not injected, or it is injected and starts before
these, or with them if it wins ties. -/
theorem findNext_wins (h : StartsFrom line origin a (sc.regular s)) :
    sc.findNext s line origin a =
      choose ((hits line origin a (sc.regular s)).argmin (·.hit.start))
        ((injectedHits line origin a (sc.injected s.scopes)).argmin (·.2.hit.start)) ∧
    (sc.findNext s line origin a = none ↔
      ∀ candidate p, sc.Offered s candidate p → p.search line origin a = none) ∧
    ∀ f, sc.findNext s line origin a = some f →
      (∃ p, sc.Offered s f.candidate p ∧ p.search line origin a = some f.hit) ∧
      (∀ candidate p m, sc.Offered s candidate p → p.search line origin a = some m →
        f.hit.start ≤ m.start) ∧
      (sc.First s line origin a f ∨
        ∃ precedence p, sc.Injected s precedence f.candidate p ∧
          p.search line origin a = some f.hit ∧
          ∀ candidate q m, sc.Regular s candidate q → q.search line origin a = some m →
            f.hit.start < m.start ∨ f.hit.start = m.start ∧ precedence = .left) := by
  refine ⟨findNext_eq h, findNext_eq_none_iff h, fun f hf => ?_⟩
  have hfirst := findNext_first h hf
  refine ⟨?_, fun candidate p m ho hm => le_of_findNext h hf ho hm, hfirst⟩
  rcases hfirst with hfirst | ⟨precedence, p, hin, hm, -⟩
  · obtain ⟨p, hp, hm⟩ := hfirst.regular
    exact ⟨p, .inl hp, hm⟩
  · exact ⟨p, .inr ⟨precedence, hin⟩, hm⟩

end Offered

end Scanner

/-- In its group the end pattern, a nested rule and an injected one all match a bracket. -/
def bracketGrammar : Descriptor :=
  { Descriptor.empty with
    scopeName := "source.bracket"
    patterns := [
      { RuleSpec.empty with
        beginPattern := some "\\("
        endPattern := some "\\)"
        patterns := some [{ RuleSpec.empty with matchPattern := some "\\)+" }] }]
    injections := [("source.bracket", { RuleSpec.empty with matchPattern := some "\\)" })] }

/-- The end pattern wins against the rules that match with it. -/
theorem end_wins_in_group :
    ∃ r t s f, Registry.empty.register [bracketGrammar] = .ok r ∧
      r.tokenizerWith "source.bracket" .default = .ok t ∧ t.Reachable s ∧
      Scanner.StartsFrom "x))\n".toList.toArray 1 .none (t.scanner.regular s) ∧
      (t.scanner.regular s).length = 2 ∧ (t.scanner.injected s.scopes).length = 1 ∧
      t.scanner.findNext s "x))\n".toList.toArray 1 .none = some f ∧ f.candidate = .ending ∧
      t.scanner.First s "x))\n".toList.toArray 1 .none f := by
  have hrun : (Registry.empty.register [bracketGrammar]).toOption.any (fun r =>
      (r.tokenizerWith "source.bracket" .default).toOption.any fun t =>
        (t.tokenizeLine "(\n".toList t.initialState true).1.toOption.any fun p =>
          ((t.scanner.regular p.2).all fun c =>
            (c.2.search "x))\n".toList.toArray 1 .none).all fun m => decide (1 ≤ m.start)) &&
          ((t.scanner.regular p.2).length == 2 && ((t.scanner.injected p.2.scopes).length == 1 &&
            (t.scanner.findNext p.2 "x))\n".toList.toArray 1 .none).any fun f =>
              f.candidate == .ending))) = true := by decide +kernel
  obtain ⟨r, hr, hrun⟩ := exists_ok_of_any hrun
  obtain ⟨t, ht, hrun⟩ := exists_ok_of_any hrun
  obtain ⟨⟨tokens, s⟩, hline, hrun⟩ := exists_ok_of_any hrun
  simp only [Bool.and_eq_true, beq_iff_eq, List.all_eq_true, Option.all_eq_true,
    decide_eq_true_eq] at hrun
  obtain ⟨hstarts, hregular, hinjected, hfound⟩ := hrun
  obtain ⟨f, hf, hending⟩ := (Option.any_eq_true _ _).1 hfound
  have hforward : Scanner.StartsFrom "x))\n".toList.toArray 1 .none (t.scanner.regular s) :=
    fun c hc m hm => hstarts c hc m hm
  refine ⟨r, t, s, f, hr, ht, .line .start .initial hline, hforward, hregular, hinjected, hf,
    eq_of_beq hending, ?_⟩
  obtain ⟨-, -, hfirst | ⟨precedence, p, hin, -⟩⟩ := (Scanner.findNext_wins hforward).2.2 f hf
  · exact hfirst
  · rw [eq_of_beq hending] at hin
    cases hin

end Scopelight
