import Scopelight.Proofs.Match

/-!
# Groups that end inside their match

Only a lookahead goes back behind a group that it took. Where no lookahead takes groups, every group
of a match ends at the end of the match or before it (`search_inside`).
-/

namespace Scopelight

namespace Regex

/-- No lookahead takes a group; with `quiet`, nothing does. -/
def Node.behind (quiet : Bool) : Node → Bool
  | group _ body => !quiet && body.behind quiet
  | call _ => !quiet
  | lookahead body => body.behind true
  | seq a b | alt a b => a.behind quiet && b.behind quiet
  | repeated body _ _ _ | atomic body | notAhead body | lookbehind body | notBehind body =>
    body.behind quiet
  | empty | char _ _ | set _ | anchor _ | backref _ _ | keep => true

/-- The groups that were taken end here or before; with `quiet` there are none. -/
def Adds (quiet : Bool) (p q : Progress) : Prop :=
  p.pos ≤ q.pos ∧ ∀ e ∈ q.taken, e ∈ p.taken ∨ (quiet = false ∧ e.2.stop ≤ q.pos)

section Adds

variable {quiet : Bool} {p q r : Progress}

theorem adds_of_taken (hpos : p.pos ≤ q.pos) (h : q.taken = p.taken) : Adds quiet p q :=
  ⟨hpos, fun _ he => .inl (h ▸ he)⟩

theorem Adds.trans (h₁ : Adds quiet p q) (h₂ : Adds quiet q r) : Adds quiet p r := by
  refine ⟨Nat.le_trans h₁.1 h₂.1, fun e he => ?_⟩
  rcases h₂.2 e he with hq | hr
  · exact (h₁.2 e hq).imp_right fun h => ⟨h.1, Nat.le_trans h.2 h₂.1⟩
  · exact .inr hr

theorem Adds.take (h : Adds false p q) (n : Nat) : Adds false p (q.take n p.pos) := by
  refine ⟨h.1, fun e he => ?_⟩
  rcases List.mem_cons.1 he with rfl | he
  · exact .inr ⟨rfl, Nat.le_refl _⟩
  · exact h.2 e he

/-- A lookahead that takes no groups goes back to where it was. -/
theorem Adds.ahead (h : Adds true p q) : Adds quiet p (q.move p.pos) :=
  ⟨Nat.le_refl _, fun e he => (h.2 e he).imp_right fun h => (by cases h.1)⟩

theorem Adds.behind {back : Nat} (h : Adds quiet (p.move (p.pos - back)) q) (hq : q.pos = p.pos) :
    Adds quiet p q :=
  ⟨Nat.le_of_eq hq.symm, h.2⟩

theorem passage_adds {s : Subject} {call : Nat → Cont → Cont}
    (hcall : ∀ n, Leads (Adds false) (call n)) :
    Passage s call (fun quiet node => node.behind quiet = true) Adds where
  refl := fun _ p => adds_of_taken (Nat.le_refl _) rfl
  trans := fun _ => .trans
  char := fun _ _ _ _ => adds_of_taken (Nat.le_succ _) rfl
  backref := by
    intro quiet p anyCase n pos hpos
    unfold Subject.backrefEnd at hpos
    split at hpos
    · cases hpos
    · split_ifs at hpos
      cases hpos
      exact adds_of_taken (Nat.le_add_right _ _) rfl
  keep := fun _ _ _ => adds_of_taken (Nat.le_refl _) rfl
  call := by
    intro quiet n h
    obtain rfl : quiet = false := by simpa [Node.behind] using h
    exact hcall n
  seq := fun h => by simpa [Node.behind] using h
  alt := fun h => by simpa [Node.behind] using h
  repeated := fun h => h
  atomic := fun h => h
  group := by
    intro quiet n body h
    simp only [Node.behind, Bool.and_eq_true, Bool.not_eq_true'] at h
    obtain ⟨rfl, hbody⟩ := h
    exact ⟨hbody, fun h => h.take _⟩
  ahead := fun h => ⟨true, h, Adds.ahead⟩
  behind := fun h => ⟨h, Adds.behind⟩

end Adds

section Search

variable {r : Regex} {text : Array Char} {origin : Nat} {m : Match}

/-- The body of a group is like what it stands in; where nothing takes groups there is none. -/
theorem Node.behind_of_findGroup {n : Nat} :
    ∀ {node body : Node} {quiet : Bool}, node.behind quiet = true →
      node.findGroup n = some body → body.behind false = true := by
  intro node
  induction node with
  | group m inner ih =>
    intro body quiet h hf
    simp only [Node.behind, Bool.and_eq_true, Bool.not_eq_true'] at h
    obtain ⟨rfl, hinner⟩ := h
    simp only [Node.findGroup] at hf
    split_ifs at hf
    · cases hf
      exact hinner
    · exact ih hinner hf
  | seq a b iha ihb =>
    intro body quiet h hf
    simp only [Node.behind, Bool.and_eq_true] at h
    simp only [Node.findGroup, Option.or_eq_some_iff] at hf
    rcases hf with hf | ⟨-, hf⟩
    · exact iha h.1 hf
    · exact ihb h.2 hf
  | alt a b iha ihb =>
    intro body quiet h hf
    simp only [Node.behind, Bool.and_eq_true] at h
    simp only [Node.findGroup, Option.or_eq_some_iff] at hf
    rcases hf with hf | ⟨-, hf⟩
    · exact iha h.1 hf
    · exact ihb h.2 hf
  | repeated _ _ _ _ ih => exact fun h => ih h
  | atomic _ ih => exact fun h => ih h
  | lookahead _ ih => exact fun h => ih h
  | notAhead _ ih => exact fun h => ih h
  | lookbehind _ ih => exact fun h => ih h
  | notBehind _ ih => exact fun h => ih h
  | empty => intro _ _ _ h; cases h
  | char => intro _ _ _ h; cases h
  | set => intro _ _ _ h; cases h
  | anchor => intro _ _ _ h; cases h
  | backref => intro _ _ _ h; cases h
  | call => intro _ _ _ h; cases h
  | keep => intro _ _ _ h; cases h

theorem behind_of_callee {n : Nat} {node : Node} (hr : r.root.behind false = true)
    (h : r.callee n = some node) : node.behind false = true := by
  unfold callee at h
  split_ifs at h
  · cases h
    exact hr
  · obtain ⟨body, hbody, rfl⟩ := Option.map_eq_some_iff.1 h
    simpa [Node.behind] using Node.behind_of_findGroup hr hbody

theorem runCall_adds (hr : r.root.behind false = true) (s : Subject) :
    ∀ depth n, Leads (Adds false) (r.runCall s depth n)
  | 0, _, _, _, _, h => by cases h
  | depth + 1, n, k, p, a, h => by
    simp only [runCall] at h
    split at h
    · rename_i node hnode
      have hpassage := passage_adds (s := s) (runCall_adds hr s depth)
      exact node.run_leads hpassage false (behind_of_callee hr hnode) k p a h
    · cases h

theorem search_inside (hr : r.root.behind false = true) (h : r.search text origin = some m)
    {n : Nat} {span : Span} (hn : m.group? n = some span) : span.stop ≤ m.stop := by
  obtain ⟨start, -, -, hs⟩ := firstFrom_some h
  obtain ⟨q, hq, rfl⟩ := Option.map_eq_some_iff.1 hs
  have hpassage := passage_adds (s := ⟨text, origin⟩) (runCall_adds hr ⟨text, origin⟩ callDepth)
  obtain ⟨q', ⟨-, htaken⟩, hq'⟩ := r.root.run_leads hpassage false hr _ _ _ hq
  cases hq'
  rcases report_group hn with rfl | ⟨i, hi⟩
  · exact Nat.le_refl _
  · rcases htaken _ hi with hnil | ⟨-, hle⟩
    · cases hnil
    · exact hle

end Search

end Regex

namespace Pattern

open Regex

variable {p : Pattern} {text : Array Char} {origin : Nat} {a : Anchors} {m : Match}

/-- No variant has a lookahead that takes groups. -/
def behind (p : Pattern) : Bool :=
  p.live.root.behind false && p.noStart.root.behind false && p.noAnchor.root.behind false &&
    p.neither.root.behind false

theorem search_inside (hp : p.behind = true) (h : p.search text origin a = some m) {n : Nat}
    {span : Span} (hn : m.group? n = some span) : span.stop ≤ m.stop := by
  simp only [behind, Bool.and_eq_true] at hp
  obtain ⟨⟨⟨hlive, hstart⟩, hanchor⟩, hneither⟩ := hp
  unfold search variant at h
  split at h
  · exact Regex.search_inside hlive h hn
  · exact Regex.search_inside hstart h hn
  · exact Regex.search_inside hanchor h hn
  · exact Regex.search_inside hneither h hn

end Pattern

end Scopelight
