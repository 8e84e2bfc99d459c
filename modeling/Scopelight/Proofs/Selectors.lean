import Mathlib.Data.List.Forall2
import Mathlib.Data.List.NodupEquivFin
import Scopelight.Scope.Selector

/-!
# What selectors select

A scope covers another one when its components, the parts between dots, lead those of the other
(`covers_iff`). An alternative looks for each of its scopes at the first place where it can be, and
that finds places in order whenever there are any (`occurInOrder_iff`). So a selector gives the
precedence of its first alternative that admits the path (`Selector.matches_eq_first`).
-/

namespace Scopelight

open Text

/-- The parts of a scope between its dots. -/
def components (scope : String) : List (List Char) := scope.toList.splitOn '.'

/-- Scopes occur in a path at places that go up: each is covered, in whole components, by the one
that is wanted there. -/
def OccurAlong (wanted path : List String) : Prop :=
  ∃ place : Fin wanted.length → Fin path.length, StrictMono place ∧
    ∀ i, components wanted[i] <+: components path[place i]

/-- No scope of the path is excluded, and those that are included occur in order. -/
def Alternative.Admits (a : Alternative) (path : List String) : Prop :=
  (∀ e ∈ a.excluded, ∀ s ∈ path, ¬components e <+: components s) ∧ OccurAlong a.included path

theorem dropLeading_eq_some_iff {lead cs rest : List Char} :
    dropLeading lead cs = some rest ↔ cs = lead ++ rest := by
  induction lead generalizing cs with
  | nil => simp [dropLeading, eq_comm]
  | cons c lead ih =>
    cases cs with
    | nil => simp [dropLeading]
    | cons d cs =>
      by_cases hcd : c = d
      · simp [dropLeading, hcd, ih]
      · simp [dropLeading, hcd, Ne.symm hcd]

theorem intercalate_append_of_ne_nil {sep : List Char} {ps qs : List (List Char)} (hp : ps ≠ [])
    (hq : qs ≠ []) :
    sep.intercalate (ps ++ qs) = sep.intercalate ps ++ sep ++ sep.intercalate qs := by
  induction ps with
  | nil => exact absurd rfl hp
  | cons p ps ih =>
    rcases ps with _ | ⟨p', ps⟩
    · rw [List.singleton_append, List.intercalate_cons_of_ne_nil hq, List.intercalate_singleton]
    · rw [List.cons_append, List.cons_append, List.intercalate_cons_cons, ← List.cons_append,
        ih (List.cons_ne_nil _ _), List.intercalate_cons_cons]
      simp

/-- The components of a text lead those of another one exactly if it is the other one, or leads it up
to a dot. -/
theorem splitOn_prefix_iff {lead cs : List Char} :
    lead.splitOn '.' <+: cs.splitOn '.' ↔ cs = lead ∨ ∃ rest, cs = lead ++ '.' :: rest := by
  constructor
  · rintro ⟨more, h⟩
    have hcs := congrArg (['.'].intercalate ·) h
    simp only [List.intercalate_splitOn] at hcs
    rcases eq_or_ne more [] with rfl | hmore
    · left
      rw [← hcs, List.append_nil, List.intercalate_splitOn]
    · right
      rw [intercalate_append_of_ne_nil (List.splitOn_ne_nil _ _) hmore,
        List.intercalate_splitOn] at hcs
      exact ⟨_, by rw [← hcs, List.append_assoc]; rfl⟩
  · rintro (rfl | ⟨rest, rfl⟩)
    · exact List.prefix_rfl
    · rw [List.splitOn_append_cons_self]
      exact List.prefix_append _ _

/-- Comparing texts and looking at the next character compares components. -/
theorem covers_iff {outer scope : String} :
    covers outer scope = true ↔ components outer <+: components scope := by
  unfold covers components
  rw [splitOn_prefix_iff]
  rcases h : dropLeading outer.toList scope.toList with _ | rest
  · have hnone : ∀ rest, scope.toList ≠ outer.toList ++ rest := fun rest hrest => by
      rw [dropLeading_eq_some_iff.2 hrest] at h
      cases h
    simp only [Bool.false_eq_true, false_iff, not_or, not_exists]
    exact ⟨fun hs => hnone [] (by rw [hs, List.append_nil]), fun rest => hnone _⟩
  · rw [dropLeading_eq_some_iff] at h
    rw [h]
    cases rest with
    | nil => simp
    | cons c rest => simp

/-- Scopes have places in order exactly if they are covered one by one by scopes of the path, some of
which may be left out. -/
theorem occurAlong_iff_sublistForall₂ {wanted path : List String} : OccurAlong wanted path ↔
    wanted.SublistForall₂ (fun w s => components w <+: components s) path := by
  rw [List.sublistForall₂_iff]
  constructor
  · rintro ⟨place, hmono, hplace⟩
    refine ⟨List.ofFn fun i => path[place i], ?_, ?_⟩
    · rw [List.forall₂_iff_get]
      exact ⟨by simp, fun i hi _ => by simpa using hplace ⟨i, hi⟩⟩
    · rw [List.sublist_iff_exists_fin_orderEmbedding_get_eq]
      have hcast : StrictMono fun i : Fin (List.ofFn fun i => path[place i]).length =>
          place (i.cast (by simp)) := fun i j hij => hmono hij
      exact ⟨OrderEmbedding.ofStrictMono _ hcast, fun i => List.get_ofFn _ i⟩
  · rintro ⟨found, hfound, hsub⟩
    obtain ⟨hlength, hcovers⟩ := List.forall₂_iff_get.1 hfound
    obtain ⟨f, hf⟩ := List.sublist_iff_exists_fin_orderEmbedding_get_eq.1 hsub
    refine ⟨fun i => f (i.cast hlength), fun i j hij => f.strictMono hij, fun i => ?_⟩
    have hcovered := hcovers i i.isLt (i.cast hlength).isLt
    rw [show found.get ⟨i, _⟩ = path.get (f (i.cast hlength)) from hf (i.cast hlength)] at hcovered
    exact hcovered

theorem sublistForall₂_of_cons {R : String → String → Prop} {w : String} {ws path : List String}
    (h : (w :: ws).SublistForall₂ R path) : ws.SublistForall₂ R path := by
  obtain ⟨found, hfound, hsub⟩ := List.sublistForall₂_iff.1 h
  cases hfound with
  | cons _ hrest => exact List.sublistForall₂_iff.2 ⟨_, hrest, (List.sublist_cons_self _ _).trans hsub⟩

/-- A scope may be taken at the first place where it can be: what can be found behind a later one can
be found behind this one too. -/
theorem occurInOrder_iff {wanted path : List String} :
    occurInOrder wanted path = true ↔ OccurAlong wanted path := by
  rw [occurAlong_iff_sublistForall₂]
  induction path generalizing wanted with
  | nil =>
    cases wanted with
    | nil => simp [occurInOrder, List.SublistForall₂.nil]
    | cons w ws =>
      simp only [occurInOrder, Bool.false_eq_true, false_iff]
      rintro (_ | _)
  | cons s path ih =>
    cases wanted with
    | nil => simp [occurInOrder, List.SublistForall₂.nil]
    | cons w ws =>
      by_cases hcovers : covers w s = true
      · rw [occurInOrder, if_pos hcovers, ih]
        refine ⟨.cons (covers_iff.1 hcovers), fun h => ?_⟩
        cases h with
        | cons _ h => exact h
        | cons_right h => exact sublistForall₂_of_cons h
      · rw [occurInOrder, if_neg hcovers, ih]
        refine ⟨.cons_right, fun h => ?_⟩
        cases h with
        | cons hw _ => exact absurd (covers_iff.2 hw) hcovers
        | cons_right h => exact h

theorem Alternative.matches_iff {a : Alternative} {path : List String} :
    a.matches path = true ↔ a.Admits path := by
  unfold Alternative.matches Alternative.Admits
  simp only [Bool.and_eq_true, occurInOrder_iff, Bool.not_eq_true', List.any_eq_false,
    List.any_eq_true, covers_iff, not_exists, not_and]

namespace Selector

/-- A selector answers with the precedence of the first alternative that admits the path, and with
nothing if there is none. -/
theorem matches_eq_first (s : Selector) (path : List String) :
    (∀ p, s.matches path = some p ↔ ∃ before a after, s.alternatives = before ++ a :: after ∧
      (∀ b ∈ before, ¬b.Admits path) ∧ a.Admits path ∧ a.precedence = p) ∧
    (s.matches path = none ↔ ∀ a ∈ s.alternatives, ¬a.Admits path) := by
  unfold Selector.matches
  constructor
  · intro p
    rw [Option.map_eq_some_iff]
    constructor
    · rintro ⟨a, ha, rfl⟩
      obtain ⟨hmatches, before, after, heq, hbefore⟩ := List.find?_eq_some_iff_append.1 ha
      refine ⟨before, a, after, heq, fun b hb hadmits => ?_, Alternative.matches_iff.1 hmatches, rfl⟩
      have := hbefore b hb
      rw [Alternative.matches_iff.2 hadmits] at this
      cases this
    · rintro ⟨before, a, after, heq, hbefore, hadmits, rfl⟩
      refine ⟨a, List.find?_eq_some_iff_append.2 ⟨Alternative.matches_iff.2 hadmits, before, after,
        heq, fun b hb => ?_⟩, rfl⟩
      rw [Bool.not_eq_true', ← Bool.not_eq_true, Alternative.matches_iff]
      exact hbefore b hb
  · rw [Option.map_eq_none_iff, List.find?_eq_none]
    exact forall₂_congr fun a _ => not_congr Alternative.matches_iff

end Selector

end Scopelight
