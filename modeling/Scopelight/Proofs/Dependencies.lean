import Scopelight.Proofs.Rearrangement

/-!
# Which scopes are missing

A scope is missing if a grammar of the registry declares that it needs it, or includes something of it
in any rule of its table, and no grammar of this scope is registered (`mem_missingDependencies_iff`).
So when nothing is missing every include of another grammar finds this grammar, and stands for nothing
only if the grammar has no entry of the name (`missingDependencies_exact`).
-/

namespace Scopelight

open Text

/-- An include in some rule of the grammar leads to this scope, to its top-level rules or to an entry. -/
def Grammar.Reaches (g : Grammar) (scope : String) : Prop :=
  ∃ repository, .inclusion (.grammar scope) repository ∈ g.rules.toList ∨
    ∃ name, .inclusion (.grammarEntry scope name) repository ∈ g.rules.toList

theorem Grammar.includes_iff {g : Grammar} {scope : String} :
    g.Includes scope ↔ g.Reaches scope := by
  constructor
  · rintro ⟨rule, hrule, hscope⟩
    rcases rule with ⟨target, repository⟩ | _ | _ | _ | _
    · cases target <;> cases hscope
      · exact ⟨repository, .inl hrule⟩
      · exact ⟨repository, .inr ⟨_, hrule⟩⟩
    all_goals cases hscope
  · rintro ⟨repository, hrule | ⟨name, hrule⟩⟩
    · exact ⟨_, hrule, rfl⟩
    · exact ⟨_, hrule, rfl⟩

namespace Registry

/-- The grammar is that of the descriptor, and no descriptor of its scope comes after it. -/
def Describes (ds : List Descriptor) (d : Descriptor) (g : Grammar) : Prop :=
  Grammar.compile d = .ok g ∧
    ∃ before after, ds = before ++ d :: after ∧ ∀ d' ∈ after, d'.scope ≠ g.scope

variable {r : Registry} {ds : List Descriptor} {scope : String}

theorem mem_missingDependencies_iff (h : r.Holds ds) :
    scope ∈ r.missingDependencies ↔ r.idOf? scope = none ∧
      ∃ id g d, r.grammar? id = some g ∧ Describes ds d g ∧
        (scope ∈ d.dependencies ∨ g.Reaches scope) := by
  unfold missingDependencies
  rw [List.mem_filter, mem_sorted, List.mem_flatMap, Option.isNone_iff_eq_none, and_comm]
  refine and_congr_right fun hnone => ⟨?_, ?_⟩
  · rintro ⟨g, hg, hneeded⟩
    obtain ⟨id, hid⟩ := List.getElem?_of_mem hg
    have hid : r.grammar? id = some g := by rwa [Array.getElem?_toList] at hid
    obtain ⟨before, d, after, hds, hd, hafter⟩ := h.latest hid
    refine ⟨id, g, d, hid, ⟨hd, before, after, hds, hafter⟩, ?_⟩
    rw [← Grammar.includes_iff]
    exact ((Grammar.mem_dependencies_iff hd).1 hneeded).2
  · rintro ⟨id, g, d, hid, ⟨hd, -⟩, hneeded⟩
    refine ⟨g, Array.mem_toList_iff.2 (Array.mem_of_getElem? hid), ?_⟩
    rw [← Grammar.includes_iff] at hneeded
    refine (Grammar.mem_dependencies_iff hd).2 ⟨?_, hneeded⟩
    rintro rfl
    rw [idOf_of_grammar hid] at hnone
    cases hnone

/-- When nothing is missing, a scope that a grammar reaches is registered, and includes of it find its
grammar: the top-level rules always, an entry if the grammar has one of the name. -/
theorem exists_of_reaches (h : r.Holds ds) (hnone : r.missingDependencies = []) {owner : Nat}
    {g : Grammar} (hg : r.grammar? owner = some g) (hscope : g.Reaches scope) :
    ∃ id other, r.idOf? scope = some id ∧ r.grammar? id = some other ∧ other.scope = scope ∧
      ∀ base repository,
        r.target? base owner (.grammar scope) repository = some ⟨id, other.root⟩ ∧
        ∀ name, r.target? base owner (.grammarEntry scope name) repository =
          (other.entry? name).map fun rule => ⟨id, rule⟩ := by
  rcases hid : r.idOf? scope with _ | id
  · obtain ⟨before, d, after, hds, hd, hafter⟩ := h.latest hg
    have hmissing := (mem_missingDependencies_iff h).2
      ⟨hid, owner, g, d, hg, ⟨hd, before, after, hds, hafter⟩, .inr hscope⟩
    rw [hnone] at hmissing
    cases hmissing
  · obtain ⟨other, hother, hs⟩ := grammar_of_idOf hid
    refine ⟨id, other, rfl, hother, hs, fun base repository => ⟨?_, fun name => ?_⟩⟩
    · simp [target?, rootRef?, hid, hother]
    · rcases hentry : other.entry? name with _ | rule <;> simp [target?, hid, hother, hentry]

/-- After any calls, a scope is missing exactly if it is not registered and a grammar that is declares
it in its descriptor or has a rule, anywhere in its table, that includes something of it; the missing
scopes are in order, each once. When there are none, no include of another grammar leads nowhere
because its scope is unknown. -/
theorem missingDependencies_exact (config : Config) (calls : List (List Descriptor)) :
    let r := (withConfig config).afterCalls calls
    (∀ scope, scope ∈ r.missingDependencies ↔ r.idOf? scope = none ∧
      ∃ id g d, r.grammar? id = some g ∧ Describes (registered calls) d g ∧
        (scope ∈ d.dependencies ∨ g.Reaches scope)) ∧
    r.missingDependencies.Pairwise (· < ·) ∧
    (r.missingDependencies = [] → ∀ owner g scope, r.grammar? owner = some g → g.Reaches scope →
      ∃ id other, r.idOf? scope = some id ∧ r.grammar? id = some other ∧ other.scope = scope ∧
        ∀ base repository,
          r.target? base owner (.grammar scope) repository = some ⟨id, other.root⟩ ∧
          ∀ name, r.target? base owner (.grammarEntry scope name) repository =
            (other.entry? name).map fun rule => ⟨id, rule⟩) := by
  intro r
  have h : r.Holds (registered calls) := holds_afterCalls config calls
  refine ⟨fun scope => mem_missingDependencies_iff h, ?_, ?_⟩
  · exact (pairwise_sorted _).filter _
  · exact fun hnone owner g scope hg hscope => exists_of_reaches h hnone hg hscope

/-- The guest is missing until it comes; then the host finds the brackets in it. -/
theorem host_finds_guest :
    (empty.afterCalls [[hostGrammar]]).missingDependencies = ["source.guest"] ∧
    let r := empty.afterCalls [[hostGrammar], [guestGrammar]]
    r.missingDependencies = [] ∧ ∃ host guest, r.grammar? 0 = some host ∧
      host.Reaches "source.guest" ∧ r.grammar? 1 = some guest ∧
      r.target? 0 0 (.grammarEntry "source.guest" "brackets") 0 =
        (guest.entry? "brackets").map fun rule => ⟨1, rule⟩ := by
  have hbefore : (empty.afterCalls [[hostGrammar]]).missingDependencies = ["source.guest"] := by
    decide +kernel
  have hnone : (empty.afterCalls [[hostGrammar], [guestGrammar]]).missingDependencies = [] := by
    decide +kernel
  have hplace : (empty.afterCalls [[hostGrammar], [guestGrammar]]).idOf? "source.guest" =
      some 1 := by decide +kernel
  have hhost : ((empty.afterCalls [[hostGrammar], [guestGrammar]]).grammar? 0).any (fun g =>
      g.rules.toList.contains (.inclusion (.grammarEntry "source.guest" "brackets") 0)) = true := by
    decide +kernel
  obtain ⟨host, hhost, hincludes⟩ := (Option.any_eq_true _ _).1 hhost
  have hreaches : host.Reaches "source.guest" :=
    ⟨0, .inr ⟨"brackets", List.contains_iff_mem.1 hincludes⟩⟩
  obtain ⟨-, -, hfinds⟩ :=
    missingDependencies_exact .default [[hostGrammar], [guestGrammar]]
  obtain ⟨id, guest, hid, hguest, -, htarget⟩ := hfinds hnone 0 host _ hhost hreaches
  obtain rfl : id = 1 := Option.some.inj (hid.symm.trans hplace)
  exact ⟨hbefore, hnone, host, guest, hhost, hreaches, hguest, (htarget 0 0).2 "brackets"⟩

end Registry

end Scopelight
