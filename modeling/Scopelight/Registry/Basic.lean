import Scopelight.Config
import Scopelight.Grammar.Compile
import Scopelight.Text.Case

/-!
# Registries

A registry is a snapshot of compiled grammars. Registering grammars makes a new snapshot and leaves
the old one as it is. A grammar whose scope is registered already takes the place of the earlier one,
so places stay valid across snapshots.

Where the grammar of a scope stands is kept in a table beside the grammars. The two agree
(`ScopeTable.Agrees`) at the start and after each grammar that is added (`Snapshot.agrees_add`), so
the agreement is a part of what a registry is.
-/

namespace Scopelight

open Text

/-- Places of grammars by key, the latest first. -/
abbrev FlagIndex := List (String × Nat)

/-- The places of grammars by scope. -/
abbrev ScopeTable := List (String × Nat)

/-- What a registry is made of. -/
structure Snapshot where
  /-- How often grammars were registered, counted in a word: after `2 ^ 64` times it is zero again. -/
  version : UInt64
  grammars : Array Grammar
  byScope : ScopeTable
  /-- Grammars by the normal form of their names. -/
  names : FlagIndex
  extensions : FlagIndex
  dottedExtensions : FlagIndex
  config : Config

/-- A table has each scope once, and for it the place where its grammar is. -/
structure ScopeTable.Agrees (table : ScopeTable) (grammars : Array Grammar) : Prop where
  nodup : (table.map Prod.fst).Nodup
  lookup {scope : String} {id : Nat} :
    List.lookup scope table = some id ↔ ∃ g, grammars[id]? = some g ∧ g.scope = scope

theorem ScopeTable.agrees_nil : Agrees [] #[] where
  nodup := List.nodup_nil
  lookup := by simp

theorem ScopeTable.Agrees.lt_size {table : ScopeTable} {grammars : Array Grammar} {scope : String}
    {id : Nat} (h : table.Agrees grammars) (hid : List.lookup scope table = some id) :
    id < grammars.size := by
  obtain ⟨g, hg, -⟩ := h.lookup.1 hid
  exact (Array.getElem?_eq_some_iff.1 hg).1

/-- Lower case, without blanks before and without slashes and blanks behind. -/
def normalFlag (flag : List Char) : List Char :=
  let cs := (lowerChars flag).dropWhile fun c => c == ' ' || c == '\t'
  (cs.reverse.dropWhile fun c => c == '/' || c == ' ' || c == '\t').reverse

def normalForm (flag : String) : String := String.ofList (normalFlag flag.toList)

/-- Let keys lead to a grammar. -/
def FlagIndex.insertAll (index : FlagIndex) (keys : List String) (id : Nat) : FlagIndex :=
  keys.foldl (fun index key => (normalForm key, id) :: index) index

namespace Snapshot

/-- A snapshot without grammars. -/
def withConfig (config : Config) : Snapshot := ⟨0, #[], [], [], [], [], config⟩

/-- Add a grammar, or put it in the place of the one of its scope. -/
def add (s : Snapshot) (g : Grammar) : Snapshot :=
  let (id, grammars, byScope) := match s.byScope.lookup g.scope with
    | some id => (id, s.grammars.setIfInBounds id g, s.byScope)
    | none => (s.grammars.size, s.grammars.push g, (g.scope, s.grammars.size) :: s.byScope)
  { s with
    grammars
    byScope
    names := FlagIndex.insertAll s.names g.names id
    extensions := FlagIndex.insertAll s.extensions g.extensions id
    dottedExtensions := FlagIndex.insertAll s.dottedExtensions g.dottedExtensions id }

/-- Compile grammars and add them, all or none. -/
def register (s : Snapshot) (ds : List Descriptor) : Except GrammarError Snapshot := do
  let added ← ds.foldlM (fun s d => return s.add (← Grammar.compile d)) s
  return { added with version := s.version + 1 }

section Add

variable {s : Snapshot} {g : Grammar} {scope : String} {id : Nat}

/-- The place that a grammar of this scope takes. -/
def placeOf (s : Snapshot) (scope : String) : Nat :=
  (s.byScope.lookup scope).getD s.grammars.size

theorem lookup_add (s : Snapshot) (g : Grammar) (scope : String) :
    (s.add g).byScope.lookup scope =
      if scope = g.scope then some (s.placeOf g.scope) else s.byScope.lookup scope := by
  unfold add placeOf
  rcases hold : s.byScope.lookup g.scope with _ | place
  · by_cases hs : scope = g.scope
    · simp [hs]
    · simp [hs, List.lookup_cons, beq_eq_false_iff_ne.2 hs]
  · by_cases hs : scope = g.scope
    · simp [hs, hold]
    · simp [hs]

theorem getElem?_add (h : s.byScope.Agrees s.grammars) (g : Grammar) (id : Nat) :
    (s.add g).grammars[id]? = if id = s.placeOf g.scope then some g else s.grammars[id]? := by
  unfold add placeOf
  rcases hold : s.byScope.lookup g.scope with _ | place
  · simp only [Option.getD_none, Array.getElem?_push]
  · have hlt := h.lt_size hold
    simp only [Option.getD_some, Array.getElem?_setIfInBounds, hlt, if_true, eq_comm (a := id)]

theorem ne_placeOf (h : s.byScope.Agrees s.grammars) (hid : s.byScope.lookup scope = some id)
    (hs : scope ≠ g.scope) : id ≠ s.placeOf g.scope := by
  rintro rfl
  obtain ⟨old, hold, hscope⟩ := h.lookup.1 hid
  unfold placeOf at hold
  rcases hplace : s.byScope.lookup g.scope with _ | place
  · simp [hplace] at hold
  · obtain ⟨old', hold', hscope'⟩ := h.lookup.1 hplace
    rw [hplace, Option.getD_some, hold', Option.some.injEq] at hold
    exact hs (by rw [← hscope, ← hscope', hold])

theorem agrees_add (h : s.byScope.Agrees s.grammars) (g : Grammar) :
    (s.add g).byScope.Agrees (s.add g).grammars where
  nodup := by
    unfold add
    rcases hold : s.byScope.lookup g.scope with _ | place
    · rw [List.map_cons, List.nodup_cons]
      refine ⟨fun hmem => ?_, h.nodup⟩
      obtain ⟨entry, hentry, hscope⟩ := List.mem_map.1 hmem
      have hne := List.lookup_eq_none_iff.1 hold entry hentry
      simp [hscope] at hne
    · exact h.nodup
  lookup {scope id} := by
    rw [lookup_add, getElem?_add h]
    by_cases hs : scope = g.scope <;> by_cases hid : id = s.placeOf g.scope
    · simp [hs, hid]
    · -- An old grammar of this scope would be where the new one is.
      have hold : ¬ ∃ g', s.grammars[id]? = some g' ∧ g'.scope = scope := by
        intro hg'
        rw [placeOf, ← hs, h.lookup.2 hg'] at hid
        exact hid rfl
      rw [if_pos hs, if_neg hid]
      exact iff_of_false (fun heq => hid (Option.some.inj heq).symm) hold
    · rw [if_neg hs, if_pos hid]
      refine iff_of_false (fun hold => ne_placeOf h hold hs hid) ?_
      rintro ⟨g', hg', rfl⟩
      exact hs (congrArg Grammar.scope (Option.some.inj hg')).symm
    · simpa only [if_neg hs, if_neg hid] using h.lookup

theorem agrees_foldlM_add {s' : Snapshot} {ds : List Descriptor} (h : s.byScope.Agrees s.grammars)
    (hs : ds.foldlM (fun s d => return s.add (← Grammar.compile d)) s = .ok s') :
    s'.byScope.Agrees s'.grammars := by
  induction ds generalizing s with
  | nil =>
    cases hs
    exact h
  | cons d ds ih =>
    rw [List.foldlM_cons] at hs
    rcases hd : Grammar.compile d with e | g
    · rw [hd] at hs
      cases hs
    · rw [hd] at hs
      exact ih (agrees_add h g) hs

theorem agrees_register {s' : Snapshot} {ds : List Descriptor} (h : s.byScope.Agrees s.grammars)
    (hs : s.register ds = .ok s') : s'.byScope.Agrees s'.grammars := by
  unfold register at hs
  rcases hadded : ds.foldlM (fun s d => return s.add (← Grammar.compile d)) s with e | added
  · rw [hadded] at hs
    cases hs
  · rw [hadded] at hs
    cases hs
    have hkeep := agrees_foldlM_add h hadded
    exact hkeep

end Add

end Snapshot

/-- A snapshot whose table of scopes agrees with its grammars. -/
structure Registry extends Snapshot where
  agrees : byScope.Agrees grammars

namespace Registry

/-- A registry without grammars. -/
def withConfig (config : Config) : Registry := ⟨.withConfig config, ScopeTable.agrees_nil⟩

def empty : Registry := withConfig .default

/-- The place of the grammar of a scope. -/
def idOf? (r : Registry) (scope : String) : Option Nat :=
  r.byScope.lookup scope

def grammar? (r : Registry) (id : Nat) : Option Grammar := r.grammars[id]?

/-- The grammar of a scope. -/
def find? (r : Registry) (scope : String) : Option Grammar :=
  (r.idOf? scope).bind r.grammar?

def rule? (r : Registry) (ref : RuleRef) : Option Rule :=
  (r.grammar? ref.grammar).bind (·.rule? ref.rule)

/-- Compile grammars and add them, all or none. -/
def register (r : Registry) (ds : List Descriptor) : Except GrammarError Registry :=
  match h : r.toSnapshot.register ds with
  | .ok s => .ok ⟨s, Snapshot.agrees_register r.agrees h⟩
  | .error e => .error e

/-- What a flag ends with from its last dot on. -/
def fromLastDot (cs : List Char) : Option (List Char) :=
  let ext := cs.reverse.takeWhile (· != '.')
  if ext.length = cs.length then none else some ('.' :: ext.reverse)

/-- The place of the grammar that a name, an extension or a path stands for. -/
def flagId? (r : Registry) (flag : String) : Option Nat :=
  let normal := normalFlag flag.toList
  (r.names.lookup (String.ofList normal)).or <|
    match fromLastDot normal with
    | some ext =>
      (r.extensions.lookup (String.ofList ext)).or (r.dottedExtensions.lookup (String.ofList ext))
    | none => r.extensions.lookup (String.ofList ('.' :: normal))

/-- The scope that a name, an extension or a path stands for. -/
def resolveFlag (r : Registry) (flag : String) : Option String :=
  ((r.flagId? flag).bind r.grammar?).map (·.scope)

/-- The registered scopes in order. -/
def scopes (r : Registry) : List String := sorted (r.byScope.map Prod.fst)

/-- The scopes that grammars need and that are not registered, in order. -/
def missingDependencies (r : Registry) : List String :=
  (sorted (r.grammars.toList.flatMap (·.dependencies))).filter fun s => (r.idOf? s).isNone

/-- The scope of the first grammar that recognises a first line. -/
def scopeForFirstLine (r : Registry) (line : String) : Option String :=
  (r.grammars.toList.find? (·.matchesFirstLine line)).map (·.scope)

end Registry

end Scopelight
