import Mathlib.Data.List.Basic
import Mathlib.Tactic.Common
import Scopelight.Registry.Expansion

/-!
# What an expansion does

A rule that stands for others is replaced by them, and a rule that matches something itself is found
once: one equation for each kind of rule. So whatever an expansion finds is a rule of the registry
that matches something (`concrete_of_mem_expandNested`).
-/

namespace Scopelight

namespace Registry

section Places

variable {r : Registry} {base : Nat} {ref : RuleRef} {rule : Rule}

theorem lt_of_grammar {id : Nat} {g : Grammar} (h : r.grammar? id = some g) :
    id < r.grammars.size := by
  unfold grammar? at h
  exact (Array.getElem?_eq_some_iff.1 h).1

theorem lt_of_idOf {scope : String} {id : Nat} (h : r.idOf? scope = some id) :
    id < r.grammars.size :=
  r.agrees.lt_size h

theorem lt_of_rule (h : r.rule? ref = some rule) : ref.grammar < r.grammars.size := by
  obtain ⟨g, hg, -⟩ := Option.bind_eq_some_iff.1 h
  exact lt_of_grammar hg

theorem target_lt {owner : Nat} {t : IncludeTarget} {repository : RepositoryId} {ref : RuleRef}
    (h : r.target? base owner t repository = some ref) : ref.grammar < r.grammars.size := by
  have hroot : ∀ {id : Nat}, r.rootRef? id = some ref → ref.grammar < r.grammars.size := by
    intro id hid
    obtain ⟨g, hg, rfl⟩ := Option.map_eq_some_iff.1 hid
    exact lt_of_grammar hg
  cases t with
  | entry name =>
    obtain ⟨g, hg, h⟩ := Option.bind_eq_some_iff.1 h
    obtain ⟨id, -, h⟩ := Option.bind_eq_some_iff.1 h
    cases h
    exact lt_of_grammar hg
  | self => exact hroot h
  | base => exact hroot h
  | grammar scope =>
    obtain ⟨id, -, h⟩ := Option.bind_eq_some_iff.1 h
    exact hroot h
  | grammarEntry scope name =>
    obtain ⟨id, -, h⟩ := Option.bind_eq_some_iff.1 h
    obtain ⟨g, hg, h⟩ := Option.bind_eq_some_iff.1 h
    obtain ⟨entry, -, h⟩ := Option.bind_eq_some_iff.1 h
    cases h
    exact lt_of_grammar hg

end Places

/-- The rule stands for other rules and matches nothing itself. -/
def splices (r : Registry) (ref : RuleRef) : Bool :=
  (r.rule? ref).any fun rule => rule.scanPattern?.isNone

/-- The rule matches something itself. -/
def Concrete (r : Registry) (ref : RuleRef) : Prop :=
  ∃ rule p, r.rule? ref = some rule ∧ rule.scanPattern? = some p

theorem Concrete.lt {r : Registry} {ref : RuleRef} (h : r.Concrete ref) :
    ref.grammar < r.grammars.size := by
  obtain ⟨rule, p, hr, -⟩ := h
  exact lt_of_rule hr

section Expand

variable {r : Registry} {base room : Nat} {e : Expansion} {ref : RuleRef}

theorem expand_of_none (hr : r.rule? ref = none) : r.expand base room e ref = e := by
  cases room with
  | zero => rfl
  | succ room => simp only [expand, hr]

theorem expand_inclusion {t : IncludeTarget} {repository : RepositoryId}
    (hr : r.rule? ref = some (.inclusion t repository)) :
    r.expand base (room + 1) e ref =
      match r.target? base ref.grammar t repository with
      | none => e
      | some target =>
        if r.splices target then
          if target ∈ e.visited then e
          else r.expand base room { e with visited := target :: e.visited } target
        else r.expand base room e target := by
  simp only [expand, hr]
  rcases r.target? base ref.grammar t repository with _ | target
  · rfl
  · obtain ht | ⟨rule, ht⟩ := Option.eq_none_or_eq_some (r.rule? target)
    · simp only [splices, ht]
      rfl
    · cases rule <;> simp only [splices, ht] <;> rfl

theorem expand_group {ids : List RuleId} (hr : r.rule? ref = some (.group ids)) :
    r.expand base (room + 1) e ref =
      ids.foldl (fun e id => r.expand base room e ⟨ref.grammar, id⟩) e := by
  simp only [expand, hr]

theorem expand_of_scanPattern {rule : Rule} {p : Pattern} (hr : r.rule? ref = some rule)
    (hp : rule.scanPattern? = some p) :
    r.expand base (room + 1) e ref =
      if ref ∈ e.visited then e else ⟨ref :: e.visited, ref :: e.found⟩ := by
  cases rule with
  | inclusion t repository => cases hp
  | group ids => cases hp
  | _ => simp only [expand, hr]

theorem expand_concrete (he : ∀ ref ∈ e.found, r.Concrete ref) :
    ∀ found ∈ (r.expand base room e ref).found, r.Concrete found := by
  induction room generalizing e ref with
  | zero => exact he
  | succ room ih =>
    rcases hr : r.rule? ref with _ | rule
    · rwa [expand_of_none hr]
    rcases hp : rule.scanPattern? with _ | p
    · cases rule with
      | inclusion t repository =>
        rw [expand_inclusion hr]
        split
        · exact he
        · split_ifs
          · exact he
          · exact ih he
          · exact ih he
      | group ids =>
        rw [expand_group hr]
        exact List.foldlRecOn (motive := fun e : Expansion => ∀ ref ∈ e.found, r.Concrete ref)
          ids _ he fun e he id _ => ih he
      | _ => cases hp
    · rw [expand_of_scanPattern hr hp]
      split_ifs
      · exact he
      · intro found hfound
        rcases List.mem_cons.1 hfound with rfl | hfound
        · exact ⟨rule, p, hr, hp⟩
        · exact he found hfound

theorem concrete_start : ∀ ref ∈ Expansion.start.found, r.Concrete ref :=
  fun ref href => by simp [Expansion.start] at href

theorem concrete_of_mem_expandNested {limit : Nat} {owner : RuleRef}
    (h : ref ∈ r.expandNested base limit owner) : r.Concrete ref := by
  unfold expandNested at h
  split at h
  · cases h
  · refine List.foldlRecOn (motive := fun e : Expansion => ∀ ref ∈ e.found, r.Concrete ref) _ _
      concrete_start (fun e he id _ => expand_concrete he) ref (List.mem_reverse.1 h)

theorem concrete_of_mem_expandRule {limit : Nat} {start : RuleRef}
    (h : ref ∈ r.expandRule base limit start) : r.Concrete ref :=
  expand_concrete concrete_start ref (List.mem_reverse.1 h)

end Expand

end Registry

end Scopelight
