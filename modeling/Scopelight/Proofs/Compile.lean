import Mathlib.Tactic.Common
import Scopelight.Registry.Basic

/-!
# What compiling keeps

Compiling a grammar changes its tables in four ways, so what all of them keep holds of the tables of
every compiled grammar (`compile_keeps`). The scopes that a grammar depends on are the ones it declares
and the ones its rules include, wherever the rules stand in it (`mem_dependencies_iff`).
-/

namespace Scopelight

open Text

/-- The scope of the other grammar that a rule includes. -/
def Rule.foreignScope? : Rule → Option String
  | inclusion target _ => target.foreignScope?
  | _ => none

/-- A rule of the grammar includes something of this scope. -/
def Grammar.Includes (g : Grammar) (scope : String) : Prop :=
  ∃ rule ∈ g.rules.toList, rule.foreignScope? = some scope

/-- The scope of a descriptor, without the blanks around it. -/
def Descriptor.scope (d : Descriptor) : String := String.ofList (trimBlank d.scopeName.toList)

namespace Build

/-- If the build succeeds, what held of the tables before it holds after it. -/
def Keeps {α : Type} (P : Tables → Prop) (m : Build α) : Prop :=
  ∀ t a t', m.run t = .ok (a, t') → P t → P t'

section Keeps

variable {α β : Type} {P : Tables → Prop} {m : Build α}

theorem run_bind_ok {f : α → Build β} {t t' : Tables} {b : β}
    (h : (m >>= f).run t = .ok (b, t')) :
    ∃ a t₁, m.run t = .ok (a, t₁) ∧ (f a).run t₁ = .ok (b, t') := by
  rw [StateT.run_bind] at h
  rcases hr : m.run t with e | ⟨a, t₁⟩
  · rw [hr] at h
    cases h
  · rw [hr] at h
    exact ⟨a, t₁, rfl, h⟩

theorem run'_ok {t : Tables} {a : α} (h : m.run' t = .ok a) : ∃ t', m.run t = .ok (a, t') := by
  change Prod.fst <$> m.run t = .ok a at h
  rcases hr : m.run t with e | ⟨b, t'⟩
  · rw [hr] at h
    cases h
  · rw [hr] at h
    obtain rfl : b = a := Except.ok.inj h
    exact ⟨t', rfl⟩

theorem keeps_pure (a : α) : Keeps P (pure a : Build α) := by
  intro t b t' h hp
  cases h
  exact hp

theorem keeps_throw (e : GrammarError) : Keeps P (throw e : Build α) := by
  intro t b t' h
  cases h

theorem Keeps.bind (hm : Keeps P m) {f : α → Build β} (hf : ∀ a, Keeps P (f a)) :
    Keeps P (m >>= f) := by
  intro t b t' h hp
  obtain ⟨a, t₁, hr, h⟩ := run_bind_ok h
  exact hf a t₁ b t' h (hm t a t₁ hr hp)

theorem Keeps.map (hm : Keeps P m) (f : α → β) : Keeps P (f <$> m) := by
  rw [map_eq_pure_bind]
  exact hm.bind fun a => keeps_pure (f a)

theorem pattern_keeps (scope path source : String) : Keeps P (pattern scope path source) := by
  unfold pattern
  split
  · exact keeps_pure _
  · exact keeps_throw _

theorem firstLine_keeps (scope : String) (source : Option String) :
    Keeps P (firstLine scope source) := by
  cases source with
  | none => exact keeps_pure none
  | some source => exact (pattern_keeps scope _ source).map some

theorem template_keeps (scope path source : String) : Keeps P (template scope path source) := by
  unfold template
  split
  · exact keeps_pure _
  · exact keeps_throw _

theorem capture_keeps (scope path key : String) (name contentName : Option ScopeName)
    {patterns : Build (Option RuleId)} (hp : Keeps P patterns) (done : CaptureRules) :
    Keeps P (capture scope path key name contentName patterns done) := by
  unfold capture
  split
  · exact keeps_throw _
  · refine hp.bind fun patterns => ?_
    split
    · exact keeps_pure _
    · exact keeps_throw _

end Keeps

/-- Every way to change the tables keeps this. A dependency is noted and its include put into the
table in one go. -/
structure Stable (scope : String) (P : Tables → Prop) : Prop where
  addRule : ∀ r, r.foreignScope? = none → Keeps P (addRule r)
  inclusion : ∀ repository reference, Keeps P (inclusion scope repository reference)
  addRepository : ∀ parent, Keeps P (addRepository parent)
  addEntry : ∀ repository name id, Keeps P (addEntry repository name id)

theorem addDependency_run {own : String} {target : IncludeTarget} {u : Unit} {t t' : Tables}
    (h : (addDependency own target).run t = .ok (u, t')) :
    t'.rules = t.rules ∧ ∀ s, s ∈ t'.dependencies ↔
      (s ≠ own ∧ target.foreignScope? = some s) ∨ s ∈ t.dependencies := by
  unfold addDependency at h
  split at h
  · rename_i scope hscope
    split_ifs at h with hown
    · cases h
      refine ⟨rfl, fun s => ?_⟩
      rw [hscope, Option.some.injEq, hown]
      exact ⟨.inr, fun h => h.elim (fun h => absurd h.2.symm h.1) id⟩
    · cases h
      refine ⟨rfl, fun s => ?_⟩
      rw [hscope, Option.some.injEq, mem_insertSorted]
      refine or_congr_left ⟨fun hs => ⟨hs ▸ hown, hs.symm⟩, fun hs => hs.2.symm⟩
  · rename_i hscope
    cases h
    exact ⟨rfl, fun s => by simp [hscope]⟩

namespace Stable

variable {scope : String} {P : Tables → Prop}

theorem single (h : Stable scope P) (path : String) (name : Option ScopeName) (source : String)
    {captures : Build CaptureRules} (hc : Keeps P captures) :
    Keeps P (Build.single scope path name source captures) :=
  (pattern_keeps _ _ _).bind fun _ => hc.bind fun _ => h.addRule _ rfl

theorem region (h : Stable scope P) (path : String) (name contentName : Option ScopeName)
    (source : String) {opening closing condition : Build CaptureRules}
    {nested : Build (List RuleId)} (ho : Keeps P opening) (hn : Keeps P nested)
    (endPattern whilePattern : Option String) (hc : Keeps P closing) (hw : Keeps P condition)
    (closingLast : Bool) :
    Keeps P (Build.region scope path name contentName source opening nested endPattern whilePattern
      closing condition closingLast) := by
  unfold Build.region
  refine (pattern_keeps _ _ _).bind fun _ => ho.bind fun _ => hn.bind fun _ => ?_
  split
  · exact (template_keeps _ _ _).bind fun _ => hc.bind fun _ => h.addRule _ rfl
  · exact (template_keeps _ _ _).bind fun _ => hw.bind fun _ => h.addRule _ rfl
  · exact keeps_throw _
  · exact keeps_throw _

theorem group (h : Stable scope P) {nested : Build (List RuleId)} (hn : Keeps P nested) :
    Keeps P (Build.group nested) :=
  hn.bind fun _ => h.addRule _ rfl

mutual

theorem rule (h : Stable scope P) (repository : RepositoryId) (path : String) :
    ∀ spec, Keeps P (Build.rule scope repository path spec)
  | ⟨reference, name, contentName, matchPattern, captures, beginPattern, beginCaptures, endPattern,
      endCaptures, whilePattern, whileCaptures, patterns, ownRepository, applyEndLast⟩ => by
    rw [Build.rule]
    refine (h.inner repository _ ownRepository).bind fun repository => ?_
    have hnested := h.optionalRules repository path patterns
    have hshared := fun path => h.captureMap repository path (keeps_pure []) captures
    have hopening := fun path => h.captureMap repository path (hshared path) beginCaptures
    have hclosing := fun path => h.captureMap repository path (hshared path) endCaptures
    have hcondition := fun path => h.captureMap repository path (hshared path) whileCaptures
    dsimp only
    split
    · exact h.inclusion _ _
    · exact keeps_throw _
    · exact h.single _ _ _ (hshared _)
    · exact h.region _ _ _ _ (hopening _) hnested _ _ (hclosing _) (hcondition _) _
    · split
      · exact keeps_throw _
      · exact h.group hnested

theorem inner (h : Stable scope P) (repository : RepositoryId) (path : String) :
    ∀ es, Keeps P (Build.inner scope repository path es)
  | none => by
    rw [Build.inner]
    exact keeps_pure _
  | some [] => by
    rw [Build.inner]
    exact keeps_pure _
  | some (e :: es) => by
    rw [Build.inner]
    refine (h.addRepository _).bind fun id => ?_
    exact (h.entries id path (e :: es)).bind fun _ => keeps_pure _

theorem rules (h : Stable scope P) (repository : RepositoryId) (path : String) :
    ∀ i specs, Keeps P (Build.rules scope repository path i specs)
  | i, [] => by
    rw [Build.rules]
    exact keeps_pure _
  | i, spec :: specs => by
    rw [Build.rules]
    refine (h.rule repository _ spec).bind fun id => ?_
    exact (h.rules repository path (i + 1) specs).bind fun ids => keeps_pure _

theorem optionalRules (h : Stable scope P) (repository : RepositoryId) (path : String) :
    ∀ specs, Keeps P (Build.optionalRules scope repository path specs)
  | none => by
    rw [Build.optionalRules]
    exact keeps_pure _
  | some specs => by
    rw [Build.optionalRules]
    exact h.rules repository path 0 specs

theorem entries (h : Stable scope P) (repository : RepositoryId) (path : String) :
    ∀ es, Keeps P (Build.entries scope repository path es)
  | [] => by
    rw [Build.entries]
    exact keeps_pure _
  | (name, spec) :: rest => by
    rw [Build.entries]
    refine (h.rule repository _ spec).bind fun id => ?_
    exact (h.addEntry _ _ _).bind fun _ => h.entries repository path rest

theorem captureMap (h : Stable scope P) (repository : RepositoryId) (path : String)
    {otherwise : Build CaptureRules} (ho : Keeps P otherwise) :
    ∀ ms, Keeps P (Build.captureMap scope repository path otherwise ms)
  | none => by
    rw [Build.captureMap]
    exact ho
  | some ms => by
    rw [Build.captureMap]
    exact h.captureRules repository path [] ms

theorem captureRules (h : Stable scope P) (repository : RepositoryId) (path : String) :
    ∀ done ms, Keeps P (Build.captureRules scope repository path done ms)
  | done, [] => by
    rw [Build.captureRules]
    exact keeps_pure _
  | done, (key, ⟨_, name, contentName, _, _, _, _, _, _, _, _, patterns, _, _⟩) :: rest => by
    rw [Build.captureRules]
    have hpatterns := h.capturePatterns repository (childPath path key) patterns
    refine (capture_keeps _ _ _ _ _ hpatterns _).bind fun done => ?_
    exact h.captureRules repository path done rest

theorem capturePatterns (h : Stable scope P) (repository : RepositoryId) (path : String) :
    ∀ specs, Keeps P (Build.capturePatterns scope repository path specs)
  | none => by
    rw [Build.capturePatterns]
    exact keeps_pure _
  | some [] => by
    rw [Build.capturePatterns]
    exact keeps_pure _
  | some (spec :: specs) => by
    rw [Build.capturePatterns]
    exact (h.group (h.rules repository path 0 (spec :: specs))).map _

end

theorem injections (h : Stable scope P) (repository : RepositoryId) :
    ∀ es, Keeps P (Build.injections scope repository es)
  | [] => keeps_pure _
  | (_, spec) :: rest =>
    (h.rule repository _ spec).bind fun _ => (h.injections repository rest).bind fun _ =>
      keeps_pure _

end Stable

end Build

/-- The grammar has the tables and what the descriptor says besides rules. -/
structure Grammar.MadeOf (g : Grammar) (d : Descriptor) (t : Tables) : Prop where
  scope : g.scope = d.scope
  names : g.names = d.names
  extensions : g.extensions = d.extensions
  dottedExtensions : g.dottedExtensions = d.dottedExtensions
  rules : g.rules = t.rules
  repositories : g.repositories = t.repositories
  injectionSelector : g.injectionSelector = d.injectionSelector.map Selector.ofString
  dependencies : g.dependencies =
    (d.dependencies.filter (· != d.scope)).foldl (fun ss s => insertSorted s ss) t.dependencies

namespace Grammar

variable {d : Descriptor} {g : Grammar}

/-- A grammar is compiled in three stages: the entries of its repository, the patterns, which its
root holds, and the injections. -/
theorem compile_stages (hg : compile d = .ok g) : ∃ u t₁ patterns t₂ t₃,
    (Build.entries d.scope 0 "repository" d.repository).run ⟨#[], #[⟨none, []⟩], []⟩ =
      .ok (u, t₁) ∧
    (Build.rules d.scope 0 "" 0 d.patterns).run t₁ = .ok (patterns, t₂) ∧
    (Build.injections d.scope 0 d.injections).run
      { t₂ with rules := t₂.rules.push (.group patterns) } = .ok (g.injections, t₃) ∧
    g.root = t₂.rules.size ∧ g.rootRepository = 0 ∧ g.MadeOf d t₃ := by
  unfold compile at hg
  change (if d.scope.isEmpty then _ else (Build.grammar d.scope d).run' .empty) = _ at hg
  split_ifs at hg
  obtain ⟨t', hrun⟩ := Build.run'_ok hg
  unfold Build.grammar at hrun
  obtain ⟨rootRepository, t₀, h₀, hrun⟩ := Build.run_bind_ok hrun
  obtain ⟨u, t₁, h₁, hrun⟩ := Build.run_bind_ok hrun
  obtain ⟨patterns, t₂, h₂, hrun⟩ := Build.run_bind_ok hrun
  obtain ⟨root, _, h, hrun⟩ := Build.run_bind_ok hrun
  obtain ⟨injections, t₃, h₃, hrun⟩ := Build.run_bind_ok hrun
  obtain ⟨firstLine, t₄, h₄, hrun⟩ := Build.run_bind_ok hrun
  cases hrun
  obtain rfl := Build.firstLine_keeps (P := (· = t₃)) _ _ _ _ _ h₄ rfl
  cases h
  cases h₀
  exact ⟨u, t₁, patterns, t₂, _, h₁, h₂, h₃, rfl, rfl, ⟨rfl, rfl, rfl, rfl, rfl, rfl, rfl, rfl⟩⟩

/-- What all changes of tables keep holds of the tables of a compiled grammar. -/
theorem compile_keeps {P : Tables → Prop} (h : Build.Stable d.scope P) (hempty : P .empty)
    (hg : compile d = .ok g) : ∃ t, P t ∧ g.MadeOf d t := by
  obtain ⟨_, t₁, patterns, t₂, t₃, h₁, h₂, h₃, -, -, hmade⟩ := compile_stages hg
  have hp₀ := h.addRepository none _ _ _ rfl hempty
  have hp₁ := h.entries _ _ _ _ _ _ h₁ hp₀
  have hp₂ := h.rules _ _ _ _ _ _ _ h₂ hp₁
  have hp := h.addRule (.group patterns) rfl t₂ _ _ rfl hp₂
  exact ⟨t₃, h.injections _ _ _ _ _ h₃ hp, hmade⟩

end Grammar

/-! ## Dependencies -/

/-- The dependencies in the tables are the scopes of other grammars that their rules include. -/
def Tables.Noted (own : String) (t : Tables) : Prop :=
  ∀ s, s ∈ t.dependencies ↔ s ≠ own ∧ ∃ rule ∈ t.rules.toList, rule.foreignScope? = some s

section Noted

variable {own : String} {t t' : Tables}

theorem noted_empty (own : String) : Tables.empty.Noted own := by
  intro s
  simp [Tables.empty]

theorem Tables.Noted.push (h : t.Noted own) {r : Rule} (hrules : t'.rules = t.rules.push r)
    (hdeps : ∀ s, s ∈ t'.dependencies ↔
      (s ≠ own ∧ r.foreignScope? = some s) ∨ s ∈ t.dependencies) : t'.Noted own := by
  intro s
  rw [hdeps, h s, hrules]
  simp only [Array.toList_push, List.mem_append, List.mem_singleton, or_and_right, exists_or,
    exists_eq_left]
  rw [← and_or_left, or_comm]

theorem stable_noted (own : String) : Build.Stable own (Tables.Noted own) where
  addRule := by
    intro r hr t id t' h ht
    cases h
    exact ht.push rfl (by simp [hr])
  inclusion := by
    intro repository reference t id t' h ht
    obtain ⟨_, t₁, h₁, h⟩ := Build.run_bind_ok h
    obtain ⟨hrules, hdeps⟩ := Build.addDependency_run h₁
    cases h
    exact ht.push (congrArg (Array.push · _) hrules) hdeps
  addRepository := by
    intro parent t id t' h ht
    cases h
    exact ht
  addEntry := by
    intro repository name id t u t' h ht
    cases h
    exact ht

end Noted

namespace Grammar

variable {d : Descriptor} {g : Grammar}

/-- A grammar depends on the scopes that it declares and on those that its rules include, its own
scope apart. -/
theorem mem_dependencies_iff (hg : compile d = .ok g) {s : String} :
    s ∈ g.dependencies ↔ s ≠ g.scope ∧ (s ∈ d.dependencies ∨ g.Includes s) := by
  obtain ⟨t, ht, hmade⟩ := compile_keeps (stable_noted d.scope) (noted_empty d.scope) hg
  rw [hmade.dependencies, mem_foldl_insertSorted, ht s, hmade.scope]
  unfold Includes
  rw [hmade.rules, List.mem_filter, bne_iff_ne, and_comm, ← and_or_left]

theorem scope_of_compile (hg : compile d = .ok g) : g.scope = d.scope := by
  obtain ⟨t, -, hmade⟩ := compile_keeps (stable_noted d.scope) (noted_empty d.scope) hg
  exact hmade.scope

theorem injectionSelector_of_compile (hg : compile d = .ok g) :
    g.injectionSelector = d.injectionSelector.map Selector.ofString := by
  obtain ⟨t, -, hmade⟩ := compile_keeps (stable_noted d.scope) (noted_empty d.scope) hg
  exact hmade.injectionSelector

end Grammar

end Scopelight
