import Mathlib.Tactic.Common
import Scopelight.Pattern

/-!
# Where matches lie

A relation that fits how nodes run holds between the progress before a node and the one that it
hands over to what follows (`Node.run_leads`). So matching never leaves the text: from a place in it
each node leads to a later place in it, with groups that lie in it (`passage_advance`). The groups
of a match lie in the text that was searched (`search_within`), and its whole is a span of it
(`search_whole`). Only `\K` can make a match start before the place where the search began
(`search_forward`).
-/

namespace Scopelight

namespace Regex

/-- The position and all groups lie in a text of this size. -/
structure Progress.Within (size : Nat) (p : Progress) : Prop where
  pos : p.pos ≤ size
  taken : ∀ e ∈ p.taken, e.2.start ≤ size ∧ e.2.stop ≤ size

/-- From a place in the text a match comes to a later one; where it starts changes only if it
may. -/
def Advance (size : Nat) (keeps : Prop) (p q : Progress) : Prop :=
  p.Within size → q.Within size ∧ p.pos ≤ q.pos ∧ (keeps ∨ q.kept = p.kept)

/-- What follows is tried only at progresses in this relation, so a success comes from such a
one. -/
def Leads (R : Progress → Progress → Prop) (m : Cont → Cont) : Prop :=
  ∀ k p r, m k p = some r → ∃ q, R p q ∧ k q = some r

section Advance

variable {size : Nat} {keeps : Prop} {p q r : Progress}

theorem Advance.refl (p : Progress) : Advance size keeps p p :=
  fun hp => ⟨hp, Nat.le_refl _, .inr rfl⟩

theorem Advance.trans (h₁ : Advance size keeps p q) (h₂ : Advance size keeps q r) :
    Advance size keeps p r := by
  intro hp
  obtain ⟨hq, hle, hk⟩ := h₁ hp
  obtain ⟨hr, hle', hk'⟩ := h₂ hq
  refine ⟨hr, Nat.le_trans hle hle', ?_⟩
  rcases hk with hk | hk
  · exact .inl hk
  · rwa [hk] at hk'

theorem advance_move {pos : Nat} (hle : p.pos ≤ pos) (hsize : pos ≤ size) :
    Advance size keeps p (p.move pos) :=
  fun hp => ⟨⟨hsize, hp.taken⟩, hle, .inr rfl⟩

theorem Advance.take (n : Nat) (h : Advance size keeps p q) :
    Advance size keeps p (q.take n p.pos) := by
  intro hp
  obtain ⟨hq, hle, hk⟩ := h hp
  refine ⟨⟨hq.pos, ?_⟩, hle, hk⟩
  intro e he
  rcases List.mem_cons.1 he with rfl | he
  · exact ⟨hp.pos, hq.pos⟩
  · exact hq.taken e he

/-- A lookahead takes the groups of its body and goes back. -/
theorem Advance.ahead (h : Advance size keeps p q) : Advance size keeps p (q.move p.pos) := by
  intro hp
  obtain ⟨hq, -, hk⟩ := h hp
  exact ⟨⟨hp.pos, hq.taken⟩, Nat.le_refl _, hk⟩

/-- A lookbehind begins earlier and ends where it was asked. -/
theorem Advance.behind {back : Nat} (h : Advance size keeps (p.move (p.pos - back)) q)
    (hq : q.pos = p.pos) : Advance size keeps p q := by
  intro hp
  obtain ⟨hwithin, -, hk⟩ := h ⟨Nat.le_trans (Nat.sub_le _ _) hp.pos, hp.taken⟩
  exact ⟨hwithin, Nat.le_of_eq hq.symm, hk⟩

theorem advance_keep (hk : keeps) : Advance size keeps p { p with kept := some p.pos } :=
  fun hp => ⟨⟨hp.pos, hp.taken⟩, Nat.le_refl _, .inl hk⟩

end Advance

section Rounds

variable {R : Progress → Progress → Prop} {round : Cont → Cont}

theorem rounds_leads (hrefl : ∀ p, R p p) (htrans : ∀ {p q r}, R p q → R q r → R p r)
    (hr : Leads R round) : ∀ n, Leads R (rounds round n)
  | 0, _, p, _, h => ⟨p, hrefl p, h⟩
  | n + 1, k, p, r, h => by
    obtain ⟨q, hpq, hq⟩ := hr _ _ _ h
    obtain ⟨q', hqq', hk⟩ := rounds_leads hrefl htrans hr n _ _ _ hq
    exact ⟨q', htrans hpq hqq', hk⟩

theorem moreRounds_leads (hrefl : ∀ p, R p p) (htrans : ∀ {p q r}, R p q → R q r → R p r)
    (hr : Leads R round) (greedy : Bool) : ∀ n, Leads R (moreRounds round greedy n)
  | 0, _, p, _, h => ⟨p, hrefl p, h⟩
  | n + 1, k, p, r, h => by
    have hround : round (fun q => if q.pos = p.pos then k q else moreRounds round greedy n k q) p
        = some r → ∃ q, R p q ∧ k q = some r := by
      intro h
      obtain ⟨q, hpq, hq⟩ := hr _ _ _ h
      split_ifs at hq
      · exact ⟨q, hpq, hq⟩
      · obtain ⟨q', hqq', hk⟩ := moreRounds_leads hrefl htrans hr greedy n _ _ _ hq
        exact ⟨q', htrans hpq hqq', hk⟩
    simp only [moreRounds] at h
    split_ifs at h
    · split at h
      · rename_i r' hr'
        cases h
        exact hround hr'
      · exact ⟨p, hrefl p, h⟩
    · split at h
      · rename_i r' hr'
        cases h
        exact ⟨p, hrefl p, hr'⟩
      · exact hround h

end Rounds

theorem firstFrom_eq_some_iff {α : Type} {f : Nat → Option α} {a : α} {count i : Nat} :
    firstFrom f count i = some a ↔
      ∃ j, i ≤ j ∧ j < i + count ∧ f j = some a ∧ ∀ k, i ≤ k → k < j → f k = none := by
  induction count generalizing i with
  | zero =>
    simp only [firstFrom, reduceCtorEq, false_iff]
    rintro ⟨j, hle, hlt, -⟩
    omega
  | succ count ih =>
    rw [firstFrom]
    rcases hi : f i with _ | b
    · rw [ih]
      constructor
      · rintro ⟨j, hle, hlt, hj, hbefore⟩
        refine ⟨j, by omega, by omega, hj, fun k hk hkj => ?_⟩
        rcases Nat.eq_or_lt_of_le hk with rfl | hk
        · exact hi
        · exact hbefore k hk hkj
      · rintro ⟨j, hle, hlt, hj, hbefore⟩
        have hne : i ≠ j := by
          rintro rfl
          simp [hi] at hj
        exact ⟨j, by omega, by omega, hj, fun k hk => hbefore k (by omega)⟩
    · constructor
      · intro h
        exact ⟨i, by omega, by omega, hi.trans h, fun k _ _ => by omega⟩
      · rintro ⟨j, hle, hlt, hj, hbefore⟩
        rcases Nat.eq_or_lt_of_le hle with rfl | hlt
        · exact hi.symm.trans hj
        · simp [hbefore i (Nat.le_refl i) hlt] at hi

theorem firstFrom_some {α : Type} {f : Nat → Option α} {a : α} {count i : Nat}
    (h : firstFrom f count i = some a) : ∃ j, i ≤ j ∧ j < i + count ∧ f j = some a := by
  obtain ⟨j, hle, hlt, hj, -⟩ := firstFrom_eq_some_iff.1 h
  exact ⟨j, hle, hlt, hj⟩

theorem repeats_le {s : Subject} {anyCase : Bool} :
    ∀ {count j i : Nat}, i ≤ s.text.size → s.repeats anyCase count j i = true →
      i + count ≤ s.text.size
  | 0, _, _, hi, _ => hi
  | count + 1, j, i, hi, h => by
    simp only [Subject.repeats] at h
    split at h
    · rename_i a b _ hb
      have hlt : i < s.text.size := (Array.getElem?_eq_some_iff.1 hb).1
      simp only [Bool.and_eq_true] at h
      have := repeats_le (by omega) h.2
      omega
    · cases h

theorem backrefEnd_le {s : Subject} {anyCase : Bool} {p : Progress} {n pos : Nat}
    (hp : p.pos ≤ s.text.size) (h : s.backrefEnd anyCase p n = some pos) :
    p.pos ≤ pos ∧ pos ≤ s.text.size := by
  unfold Subject.backrefEnd at h
  split at h
  · cases h
  · split_ifs at h with hr
    obtain rfl := Option.some.inj h
    exact ⟨by omega, repeats_le hp hr⟩

/-- Relations between the progress before a node and the one after it that fit how nodes run. Each
is for the nodes that it fits, and the bodies of lookaheads may need another one of them. -/
structure Passage {ι : Type} (s : Subject) (call : Nat → Cont → Cont) (fits : ι → Node → Prop)
    (R : ι → Progress → Progress → Prop) : Prop where
  refl : ∀ i p, R i p p
  trans : ∀ i {p q r}, R i p q → R i q r → R i p r
  char : ∀ i p c, s.text[p.pos]? = some c → R i p (p.move (p.pos + 1))
  backref : ∀ i p anyCase n pos, s.backrefEnd anyCase p n = some pos → R i p (p.move pos)
  keep : ∀ i p, fits i .keep → R i p { p with kept := some p.pos }
  call : ∀ i n, fits i (.call n) → Leads (R i) (call n)
  seq : ∀ {i a b}, fits i (.seq a b) → fits i a ∧ fits i b
  alt : ∀ {i a b}, fits i (.alt a b) → fits i a ∧ fits i b
  repeated : ∀ {i body least most greedy}, fits i (.repeated body least most greedy) → fits i body
  atomic : ∀ {i body}, fits i (.atomic body) → fits i body
  group : ∀ {i n body}, fits i (.group n body) →
    fits i body ∧ ∀ {p q}, R i p q → R i p (q.take n p.pos)
  ahead : ∀ {i body}, fits i (.lookahead body) →
    ∃ j, fits j body ∧ ∀ {p q}, R j p q → R i p (q.move p.pos)
  behind : ∀ {i body}, fits i (.lookbehind body) → fits i body ∧
    ∀ {p q back}, R i (p.move (p.pos - back)) q → q.pos = p.pos → R i p q

section Run

variable {ι : Type} {s : Subject} {call : Nat → Cont → Cont} {fits : ι → Node → Prop}
  {R : ι → Progress → Progress → Prop}

/-- What follows a node is tried only at progresses in a relation that fits the node. -/
theorem Node.run_leads (h : Passage s call fits R) :
    ∀ (node : Node) (i : ι), fits i node → Leads (R i) (node.run s call) := by
  intro node
  induction node with
  | empty =>
    intro i _ k p r hr
    exact ⟨p, h.refl i p, hr⟩
  | char c anyCase =>
    intro i _ k p r hr
    simp only [Node.run] at hr
    split at hr
    · rename_i d hd
      split_ifs at hr
      exact ⟨_, h.char i p d hd, hr⟩
    · cases hr
  | set cs =>
    intro i _ k p r hr
    simp only [Node.run] at hr
    split at hr
    · rename_i d hd
      split_ifs at hr
      exact ⟨_, h.char i p d hd, hr⟩
    · cases hr
  | seq a b iha ihb =>
    intro i hi k p r hr
    obtain ⟨q, hpq, hq⟩ := iha i (h.seq hi).1 _ _ _ hr
    obtain ⟨q', hqq', hk⟩ := ihb i (h.seq hi).2 _ _ _ hq
    exact ⟨q', h.trans i hpq hqq', hk⟩
  | alt a b iha ihb =>
    intro i hi k p r hr
    simp only [Node.run] at hr
    split at hr
    · rename_i r' hr'
      cases hr
      exact iha i (h.alt hi).1 _ _ _ hr'
    · exact ihb i (h.alt hi).2 _ _ _ hr
  | repeated body least most greedy ih =>
    intro i hi k p r hr
    have hbody := ih i (h.repeated hi)
    obtain ⟨q, hpq, hq⟩ := rounds_leads (h.refl i) (h.trans i) hbody least _ _ _ hr
    obtain ⟨q', hqq', hk⟩ := moreRounds_leads (h.refl i) (h.trans i) hbody greedy _ _ _ _ hq
    exact ⟨q', h.trans i hpq hqq', hk⟩
  | group n body ih =>
    intro i hi k p r hr
    obtain ⟨hbody, htake⟩ := h.group hi
    obtain ⟨q, hpq, hq⟩ := ih i hbody _ _ _ hr
    exact ⟨_, htake hpq, hq⟩
  | atomic body ih =>
    intro i hi k p r hr
    simp only [Node.run] at hr
    split at hr
    · rename_i q hq
      obtain ⟨q', hpq, hq'⟩ := ih i (h.atomic hi) _ _ _ hq
      cases hq'
      exact ⟨q, hpq, hr⟩
    · cases hr
  | lookahead body ih =>
    intro i hi k p r hr
    obtain ⟨j, hbody, hback⟩ := h.ahead hi
    simp only [Node.run] at hr
    split at hr
    · rename_i q hq
      obtain ⟨q', hpq, hq'⟩ := ih j hbody _ _ _ hq
      cases hq'
      exact ⟨_, hback hpq, hr⟩
    · cases hr
  | notAhead body ih =>
    intro i _ k p r hr
    simp only [Node.run] at hr
    split at hr
    · cases hr
    · exact ⟨p, h.refl i p, hr⟩
  | lookbehind body ih =>
    intro i hi k p r hr
    obtain ⟨hbody, hback⟩ := h.behind hi
    simp only [Node.run] at hr
    split at hr
    · rename_i q hq
      obtain ⟨back, -, -, hb⟩ := firstFrom_some hq
      obtain ⟨q', hpq, hq'⟩ := ih i hbody _ _ _ hb
      split_ifs at hq' with hpos
      cases hq'
      exact ⟨q, hback hpq hpos, hr⟩
    · cases hr
  | notBehind body ih =>
    intro i _ k p r hr
    simp only [Node.run] at hr
    split at hr
    · cases hr
    · exact ⟨p, h.refl i p, hr⟩
  | anchor a =>
    intro i _ k p r hr
    simp only [Node.run] at hr
    split_ifs at hr
    exact ⟨p, h.refl i p, hr⟩
  | backref groups anyCase =>
    intro i _ k p r hr
    simp only [Node.run] at hr
    split at hr
    · rename_i pos hpos
      obtain ⟨n, -, hn⟩ := List.exists_of_findSome?_eq_some hpos
      exact ⟨p.move pos, h.backref i p anyCase n pos hn, hr⟩
    · cases hr
  | call n => exact fun i hi => h.call i n hi
  | keep =>
    intro i hi k p r hr
    exact ⟨_, h.keep i p hi, hr⟩

end Run

/-- Whether a match may start elsewhere than where it was tried. -/
def Node.hasKeep : Node → Bool
  | keep => true
  | seq a b | alt a b => a.hasKeep || b.hasKeep
  | repeated body _ _ _ | group _ body | atomic body | lookahead body | notAhead body
  | lookbehind body | notBehind body => body.hasKeep
  | empty | char _ _ | set _ | anchor _ | backref _ _ | call _ => false

theorem passage_advance {s : Subject} {keeps : Prop} {call : Nat → Cont → Cont}
    (hcall : ∀ n, Leads (Advance s.text.size keeps) (call n)) :
    Passage s call (fun (_ : Unit) node => node.hasKeep = true → keeps)
      (fun _ => Advance s.text.size keeps) where
  refl := fun _ => .refl
  trans := fun _ => .trans
  char := by
    intro _ p c hc
    have hlt : p.pos < s.text.size := (Array.getElem?_eq_some_iff.1 hc).1
    exact advance_move (by omega) (by omega)
  backref := by
    intro _ p anyCase n pos hpos hp
    obtain ⟨hle, hsize⟩ := backrefEnd_le hp.pos hpos
    exact advance_move hle hsize hp
  keep := fun _ _ hk => advance_keep (hk rfl)
  call := fun _ n _ => hcall n
  seq := by
    intro _ a b hk
    simp only [Node.hasKeep, Bool.or_eq_true] at hk
    exact ⟨fun h => hk (.inl h), fun h => hk (.inr h)⟩
  alt := by
    intro _ a b hk
    simp only [Node.hasKeep, Bool.or_eq_true] at hk
    exact ⟨fun h => hk (.inl h), fun h => hk (.inr h)⟩
  repeated := fun hk => hk
  atomic := fun hk => hk
  group := fun hk => ⟨hk, fun h => h.take _⟩
  ahead := fun hk => ⟨(), hk, fun h => h.ahead⟩
  behind := fun hk => ⟨hk, fun h hq => h.behind hq⟩

section Search

variable {r : Regex} {text : Array Char} {origin : Nat} {m : Match}

theorem Node.hasKeep_of_findGroup {n : Nat} :
    ∀ {node body : Node}, node.findGroup n = some body → body.hasKeep = true →
      node.hasKeep = true := by
  intro node
  induction node with
  | group m inner ih =>
    intro body h hk
    simp only [Node.findGroup] at h
    split_ifs at h
    · cases h
      exact hk
    · exact ih h hk
  | seq a b iha ihb =>
    intro body h hk
    simp only [Node.findGroup, Option.or_eq_some_iff] at h
    simp only [Node.hasKeep, Bool.or_eq_true]
    rcases h with h | ⟨-, h⟩
    · exact .inl (iha h hk)
    · exact .inr (ihb h hk)
  | alt a b iha ihb =>
    intro body h hk
    simp only [Node.findGroup, Option.or_eq_some_iff] at h
    simp only [Node.hasKeep, Bool.or_eq_true]
    rcases h with h | ⟨-, h⟩
    · exact .inl (iha h hk)
    · exact .inr (ihb h hk)
  | repeated _ _ _ _ ih => exact ih
  | atomic _ ih => exact ih
  | lookahead _ ih => exact ih
  | notAhead _ ih => exact ih
  | lookbehind _ ih => exact ih
  | notBehind _ ih => exact ih
  | empty => intro _ h; cases h
  | char => intro _ h; cases h
  | set => intro _ h; cases h
  | anchor => intro _ h; cases h
  | backref => intro _ h; cases h
  | call => intro _ h; cases h
  | keep => intro _ h; cases h

theorem hasKeep_of_callee {n : Nat} {node : Node} (h : r.callee n = some node)
    (hk : node.hasKeep = true) : r.root.hasKeep = true := by
  unfold callee at h
  split_ifs at h
  · cases h
    exact hk
  · obtain ⟨body, hbody, rfl⟩ := Option.map_eq_some_iff.1 h
    exact Node.hasKeep_of_findGroup hbody hk

theorem runCall_leads {s : Subject} :
    ∀ depth n, Leads (Advance s.text.size (r.root.hasKeep = true)) (r.runCall s depth n)
  | 0, _, _, _, _, h => by cases h
  | depth + 1, n, k, p, a, h => by
    simp only [runCall] at h
    split at h
    · rename_i node hnode
      have hpassage := passage_advance (s := s) (runCall_leads depth)
      exact node.run_leads hpassage () (hasKeep_of_callee hnode) k p a h
    · cases h

/-- What a search finds is the report of a progress from a place between the origin and the end. -/
theorem search_advance (h : r.search text origin = some m) :
    ∃ start q, origin ≤ start ∧ m = r.report start q ∧ q.Within text.size ∧ start ≤ q.pos ∧
      (r.root.hasKeep = true ∨ q.kept = none) := by
  obtain ⟨start, hle, hlt, hs⟩ := firstFrom_some h
  obtain ⟨a, ha, rfl⟩ := Option.map_eq_some_iff.1 hs
  have hpassage := passage_advance (s := ⟨text, origin⟩) (r.runCall_leads callDepth)
  obtain ⟨q, hadv, hq⟩ := r.root.run_leads hpassage () id _ _ _ ha
  cases hq
  have hstart : start ≤ text.size := by omega
  obtain ⟨hwithin, hpos, hk⟩ := hadv ⟨hstart, by intro e he; cases he⟩
  exact ⟨start, a, hle, rfl, hwithin, hpos, hk⟩

theorem report_group {start n : Nat} {q : Progress} {span : Span}
    (h : (r.report start q).group? n = some span) :
    span = ⟨min (q.kept.getD start) q.pos, q.pos⟩ ∨ ∃ i, (i, span) ∈ q.taken := by
  unfold Match.group? report at h
  cases n with
  | zero =>
    simp only [List.getElem?_cons_zero, Option.join_some, Option.some.injEq] at h
    exact .inl h.symm
  | succ n =>
    simp only [List.getElem?_cons_succ, List.getElem?_map, Option.join_eq_some_iff,
      Option.map_eq_some_iff] at h
    obtain ⟨i, -, hi⟩ := h
    obtain ⟨before, after, hsplit, -⟩ := List.lookup_eq_some_iff.1 hi
    exact .inr ⟨i + 1, by simp [hsplit]⟩

/-- All groups lie in a text of this size. -/
def Match.Within (size : Nat) (m : Match) : Prop :=
  ∀ n span, m.group? n = some span → span.start ≤ size ∧ span.stop ≤ size

theorem search_within (h : r.search text origin = some m) : m.Within text.size := by
  intro n span hn
  obtain ⟨start, q, -, rfl, hq, -, -⟩ := search_advance h
  have := hq.pos
  rcases report_group hn with rfl | ⟨i, hi⟩
  · exact ⟨by dsimp only; omega, hq.pos⟩
  · exact hq.taken _ hi

theorem search_whole (h : r.search text origin = some m) :
    m.start ≤ m.stop ∧ m.stop ≤ text.size := by
  obtain ⟨start, q, -, rfl, hq, -, -⟩ := search_advance h
  exact ⟨Nat.min_le_right _ _, hq.pos⟩

/-- Without `\K` a match starts where the search began or after it. -/
theorem search_forward (hk : r.root.hasKeep = false) (h : r.search text origin = some m) :
    origin ≤ m.start := by
  obtain ⟨start, q, hle, rfl, -, hpos, hkept⟩ := search_advance h
  have hnone : q.kept = none := by simpa [hk] using hkept
  change origin ≤ min (q.kept.getD start) q.pos
  rw [hnone, Option.getD_none]
  omega

end Search

end Regex

namespace Pattern

open Regex

variable {p : Pattern} {text : Array Char} {origin : Nat} {a : Anchors} {m : Match}

/-- No search comes back with a match before the place where it began. -/
def Forward (p : Pattern) : Prop :=
  ∀ text origin a m, p.search text origin a = some m → origin ≤ m.start

theorem search_within (h : p.search text origin a = some m) : m.Within text.size :=
  Regex.search_within h

theorem search_whole (h : p.search text origin a = some m) :
    m.start ≤ m.stop ∧ m.stop ≤ text.size :=
  Regex.search_whole h

theorem search_of_matchAt (h : p.matchAt text origin a = some m) :
    p.search text origin a = some m ∧ m.start = origin := by
  obtain ⟨hs, hstart⟩ := Option.filter_eq_some_iff.1 h
  exact ⟨hs, by simpa using hstart⟩

/-- Whether some variant has `\K`. -/
def hasKeep (p : Pattern) : Bool :=
  p.live.root.hasKeep || p.noStart.root.hasKeep || p.noAnchor.root.hasKeep ||
    p.neither.root.hasKeep

theorem forward_of_hasKeep (hk : p.hasKeep = false) : p.Forward := by
  intro text origin a m h
  simp only [hasKeep, Bool.or_eq_false_iff] at hk
  obtain ⟨⟨⟨hlive, hstart⟩, hanchor⟩, hneither⟩ := hk
  unfold search variant at h
  split at h
  · exact search_forward hlive h
  · exact search_forward hstart h
  · exact search_forward hanchor h
  · exact search_forward hneither h

end Pattern

end Scopelight
