import Mathlib.Data.List.Perm.Subperm
import Scopelight.Proofs.Compile
import Scopelight.Proofs.Outcome

/-!
# Places of rules

While a grammar is compiled, each rule of the table stands in one place at most: in a rule, in a
repository, or loose with the part of the build that has made it and not yet put it anywhere
(`Tables.Forest`). A part of the build takes up loose rules and leaves others behind, and what else is
loose is none of its concern (`Build.Plants`). So in a compiled grammar the rules form a forest whose
roots the grammar holds itself, and a name is looked up in finitely many steps
(`wellFormed_of_compile`).
-/

namespace Scopelight

open Text

/-- The rules that stand in captures. -/
def CaptureRules.held (cs : CaptureRules) : List RuleId := cs.filterMap (·.2.patterns)

/-- The rules that stand in a rule: those nested in it and those of its captures. -/
def Rule.held (r : Rule) : List RuleId := r.nested ++ r.captures.held

/-- The rules that are entries of a repository. -/
def Repository.held (r : Repository) : List RuleId := r.entries.map (·.2)

/-- The rules that stand in others or in repositories, once for each place. -/
def Tables.held (t : Tables) : List RuleId :=
  t.rules.toList.flatMap Rule.held ++ t.repositories.toList.flatMap Repository.held

/-- The rules form a forest. Those that are loose stand in no place. -/
structure Tables.Forest (t : Tables) (loose : List RuleId) : Prop where
  /-- No rule stands in two places. -/
  nodup : (loose ++ t.held).Nodup
  /-- No rule that is held is missing. -/
  placed : ∀ id ∈ loose ++ t.held, id < t.rules.size
  /-- What stands in a rule comes before it. -/
  before : ∀ (id : RuleId) (rule : Rule), t.rules[id]? = some rule → ∀ k ∈ rule.held, k < id
  /-- No repository that an include is looked up from is missing. -/
  inside : ∀ (id : RuleId) (target : IncludeTarget) (r : RepositoryId),
    t.rules[id]? = some (.inclusion target r) → r < t.repositories.size
  /-- A repository is inside an earlier one. -/
  parent : ∀ (r p : RepositoryId) (repository : Repository), t.repositories[r]? = some repository →
    repository.parent = some p → p < r

section Forest

variable {t : Tables} {loose taken : List RuleId}

theorem CaptureRules.held_cons (n : Nat) (c : CaptureRule) (cs : CaptureRules) :
    held ((n, c) :: cs) = c.patterns.toList ++ cs.held := by
  rcases hc : c.patterns with _ | id <;> simp [held, hc]

theorem CaptureRules.held_append (cs ds : CaptureRules) : held (cs ++ ds) = cs.held ++ ds.held :=
  List.filterMap_append

theorem CaptureRules.held_set (n : Nat) (c : CaptureRule) (cs : CaptureRules) :
    (cs.set n c).held.Subperm (c.patterns.toList ++ cs.held) := by
  induction cs with
  | nil =>
    rw [CaptureRules.set, held_cons]
  | cons e cs ih =>
    obtain ⟨m, d⟩ := e
    unfold CaptureRules.set
    split_ifs
    · rw [held_cons]
    · rw [held_cons, held_cons]
      exact ((List.sublist_append_right _ _).append_left _).subperm
    · rw [held_cons, held_cons]
      refine ((List.subperm_append_left _).2 ih).trans (List.Perm.subperm ?_)
      rw [← List.append_assoc, ← List.append_assoc]
      exact List.perm_append_comm.append_right _

theorem nodup_of_subperm {l l' : List RuleId} (h : l.Subperm l') (hl : l'.Nodup) : l.Nodup := by
  obtain ⟨l₁, hperm, hsub⟩ := h
  exact hperm.nodup_iff.1 (hl.sublist hsub)

/-- Loose rules may be forgotten. -/
theorem Tables.Forest.forget (h : t.Forest taken) (hsub : loose.Subperm taken) : t.Forest loose := by
  have hall : (loose ++ t.held).Subperm (taken ++ t.held) := (List.subperm_append_right _).2 hsub
  exact ⟨nodup_of_subperm hall h.nodup, fun id hid => h.placed id (hall.subset hid), h.before,
    h.inside, h.parent⟩

theorem Tables.Forest.congr {t' : Tables} (h : t.Forest loose) (hrules : t'.rules = t.rules)
    (hrepositories : t'.repositories = t.repositories) : t'.Forest loose := by
  obtain ⟨_, _, _⟩ := t'
  cases hrules
  cases hrepositories
  exact ⟨h.nodup, h.placed, h.before, h.inside, h.parent⟩

theorem Tables.held_push (t : Tables) (rule : Rule) :
    { t with rules := t.rules.push rule }.held.Perm (rule.held ++ t.held) := by
  simp only [held, Array.toList_push, List.flatMap_append, List.flatMap_singleton]
  rw [← List.append_assoc]
  exact List.perm_append_comm.append_right _

/-- A new rule takes up what it holds and is loose itself. -/
theorem Tables.Forest.push (h : t.Forest (taken ++ loose)) {rule : Rule}
    (hsub : rule.held.Subperm taken)
    (hinside : ∀ target r, rule = .inclusion target r → r < t.repositories.size) :
    { t with rules := t.rules.push rule }.Forest (t.rules.size :: loose) := by
  have hrule := h.forget ((List.subperm_append_right loose).2 hsub)
  -- The rules that stand anywhere are the old ones and the new one, which is none of them.
  have hperm : (t.rules.size :: loose ++ { t with rules := t.rules.push rule }.held).Perm
      (t.rules.size :: (rule.held ++ loose ++ t.held)) := by
    refine List.Perm.cons _ (((t.held_push rule).append_left loose).trans ?_)
    rw [← List.append_assoc]
    exact List.perm_append_comm.append_right _
  have hfresh : t.rules.size ∉ rule.held ++ loose ++ t.held := fun hid =>
    Nat.lt_irrefl _ (hrule.placed _ hid)
  refine ⟨hperm.nodup_iff.2 (List.nodup_cons.2 ⟨hfresh, hrule.nodup⟩), fun id hid => ?_,
    fun id other hother => ?_, fun id target r hid => ?_, h.parent⟩
  · rw [Array.size_push]
    rcases List.mem_cons.1 (hperm.subset hid) with rfl | hid
    · exact Nat.lt_succ_self _
    · exact Nat.lt_succ_of_lt (hrule.placed id hid)
  · rw [Array.getElem?_push] at hother
    split_ifs at hother with hlast
    · cases hother
      intro k hk
      rw [hlast]
      exact hrule.placed k (List.mem_append_left _ (List.mem_append_left _ hk))
    · exact h.before id other hother
  · rw [Array.getElem?_push] at hid
    split_ifs at hid with hlast
    · exact hinside target r (Option.some.inj hid)
    · exact h.inside id target r hid

theorem forest_empty : Tables.empty.Forest [] := by
  refine ⟨List.nodup_nil, List.forall_mem_nil _, ?_, ?_, ?_⟩ <;> simp [Tables.empty]

theorem Tables.Forest.addRepository (h : t.Forest loose) {parent : Option RepositoryId}
    (hparent : ∀ p, parent = some p → p < t.repositories.size) :
    { t with repositories := t.repositories.push ⟨parent, []⟩ }.Forest loose := by
  have hheld : { t with repositories := t.repositories.push ⟨parent, []⟩ }.held = t.held := by
    simp [Tables.held, Repository.held]
  refine ⟨hheld ▸ h.nodup, fun id hid => h.placed id (hheld ▸ hid), h.before,
    fun id target r hid => ?_, fun r p repository hr hp => ?_⟩
  · rw [Array.size_push]
    exact Nat.lt_succ_of_lt (h.inside id target r hid)
  · rw [Array.getElem?_push] at hr
    split_ifs at hr with hlast
    · cases hr
      rw [hlast]
      exact hparent p hp
    · exact h.parent r p repository hr hp

/-- What is appended to one part of a list is all that is new. -/
theorem flatMap_modify_subperm {α β : Type} {f : α → List β} {g : α → α} {b : β}
    (hg : ∀ a, f (g a) = f a ++ [b]) : ∀ (l : List α) (i : Nat),
    ((l.modify i g).flatMap f).Subperm (b :: l.flatMap f)
  | [], i => by simp
  | a :: l, 0 => by
    rw [List.modify_zero_cons, List.flatMap_cons, List.flatMap_cons, hg, List.append_assoc]
    exact List.perm_middle.subperm
  | a :: l, i + 1 => by
    rw [List.modify_succ_cons, List.flatMap_cons, List.flatMap_cons]
    refine ((List.subperm_append_left _).2 (flatMap_modify_subperm hg l i)).trans ?_
    exact List.perm_middle.subperm

/-- The tables with another entry of a repository. -/
def Tables.withEntry (t : Tables) (repository : RepositoryId) (name : String) (id : RuleId) :
    Tables :=
  { t with repositories := t.repositories.modify repository fun r =>
    { r with entries := r.entries ++ [(name, id)] } }

theorem Tables.held_withEntry (t : Tables) (repository : RepositoryId) (name : String)
    (id : RuleId) : (t.withEntry repository name id).held.Subperm (id :: t.held) := by
  rw [withEntry, held, held, Array.toList_modify]
  refine ((List.subperm_append_left _).2 (flatMap_modify_subperm (fun r => ?_) _ _)).trans
    List.perm_middle.subperm
  simp [Repository.held]

theorem Tables.parent_withEntry {repository r : RepositoryId} {name : String} {id : RuleId}
    {rep : Repository} (h : (t.withEntry repository name id).repositories[r]? = some rep) :
    ∃ old, t.repositories[r]? = some old ∧ rep.parent = old.parent := by
  rw [withEntry, Array.getElem?_modify] at h
  split_ifs at h
  · obtain ⟨old, hold, rfl⟩ := Option.map_eq_some_iff.1 h
    exact ⟨old, hold, rfl⟩
  · exact ⟨rep, h, rfl⟩

theorem Tables.Forest.withEntry {id : RuleId} (h : t.Forest (id :: loose)) (repository : RepositoryId)
    (name : String) : (t.withEntry repository name id).Forest loose := by
  have hall : (loose ++ (t.withEntry repository name id).held).Subperm (id :: loose ++ t.held) :=
    ((List.subperm_append_left _).2 (t.held_withEntry _ _ _)).trans List.perm_middle.subperm
  refine ⟨nodup_of_subperm hall h.nodup, fun id hid => h.placed id (hall.subset hid), h.before,
    fun id target r hid => ?_, fun r p rep hr hp => ?_⟩
  · rw [Tables.withEntry, Array.size_modify]
    exact h.inside id target r hid
  · obtain ⟨old, hold, hparent⟩ := Tables.parent_withEntry hr
    exact h.parent r p old hold (hparent ▸ hp)

end Forest

namespace Build

/-- From tables with at least `n` repositories the build, if it succeeds, takes up these loose rules
and leaves others loose. Whatever else was loose still is. -/
def Plants {α : Type} (n : Nat) (taken : List RuleId) (left : α → List RuleId) (m : Build α) :
    Prop :=
  ∀ t a t' loose, m.run t = .ok (a, t') → n ≤ t.repositories.size → t.Forest (taken ++ loose) →
    t.repositories.size ≤ t'.repositories.size ∧ t'.Forest (left a ++ loose)

/-- As `Plants`, with a repository for an answer. -/
def Opens (n : Nat) (m : Build RepositoryId) : Prop :=
  ∀ t r t' loose, m.run t = .ok (r, t') → n ≤ t.repositories.size → t.Forest loose →
    r < t'.repositories.size ∧ t.repositories.size ≤ t'.repositories.size ∧ t'.Forest loose

/-- Nothing is left loose. -/
abbrev Nothing {α : Type} (_ : α) : List RuleId := []

/-- The answer is the one rule left loose. -/
abbrev One (id : RuleId) : List RuleId := [id]

section Plants

variable {α β : Type} {n : Nat} {taken l : List RuleId} {mid : α → List RuleId}
  {left : β → List RuleId} {m : Build α} {scope : String} {repository : RepositoryId}

theorem plants_pure {b : β} (h : (left b).Subperm taken) : Plants n taken left (pure b) := by
  intro t a t' loose hrun _ ht
  cases hrun
  exact ⟨Nat.le_refl _, ht.forget ((List.subperm_append_right loose).2 h)⟩

theorem plants_nil : Plants n [] CaptureRules.held (pure []) := plants_pure (.refl _)

theorem plants_throw (e : GrammarError) : Plants n taken left (throw e) := by
  intro t a t' loose hrun
  cases hrun

/-- The second build takes up what the first has left and more of what was loose before. -/
theorem Plants.bind (hm : Plants n taken mid m) {f : α → Build β}
    (hf : ∀ a, Plants n (l ++ mid a) left (f a)) : Plants n (l ++ taken) left (m >>= f) := by
  intro t b t' loose hrun hn ht
  obtain ⟨a, t₁, h₁, h₂⟩ := run_bind_ok hrun
  have hswap (l l' : List RuleId) : (l' ++ (l ++ loose)).Subperm (l ++ l' ++ loose) := by
    rw [← List.append_assoc]
    exact (List.perm_append_comm.append_right loose).subperm
  obtain ⟨hle₁, ht₁⟩ := hm t a t₁ _ h₁ hn (ht.forget (hswap _ _))
  obtain ⟨hle₂, ht'⟩ := hf a t₁ b t' loose h₂ (Nat.le_trans hn hle₁)
    (ht₁.forget (List.append_assoc .. ▸ (List.perm_append_comm.append_right loose).subperm))
  exact ⟨Nat.le_trans hle₁ hle₂, ht'⟩

theorem Opens.bind {m : Build RepositoryId} (hm : Opens n m) {f : RepositoryId → Build β}
    (hf : ∀ r k, r < k → Plants k taken left (f r)) : Plants n taken left (m >>= f) := by
  intro t b t' loose hrun hn ht
  obtain ⟨r, t₁, h₁, h₂⟩ := run_bind_ok hrun
  obtain ⟨hr, hle₁, ht₁⟩ := hm t r t₁ _ h₁ hn ht
  obtain ⟨hle₂, ht'⟩ := hf r _ hr t₁ b t' loose h₂ (Nat.le_refl _) ht₁
  exact ⟨Nat.le_trans hle₁ hle₂, ht'⟩

theorem opens_pure {r : RepositoryId} (hr : r < n) : Opens n (pure r) := by
  intro t a t' loose hrun hn ht
  cases hrun
  exact ⟨Nat.lt_of_lt_of_le hr hn, Nat.le_refl _, ht⟩

theorem addRepository_opens {parent : Option RepositoryId}
    (hparent : ∀ p, parent = some p → p < n) : Opens n (addRepository parent) := by
  intro t r t' loose hrun hn ht
  cases hrun
  rw [Array.size_push]
  exact ⟨Nat.lt_succ_self _, Nat.le_succ _,
    ht.addRepository fun p hp => Nat.lt_of_lt_of_le (hparent p hp) hn⟩

theorem Opens.filled {m : Build RepositoryId} (hm : Opens n m) {f : RepositoryId → Build Unit}
    (hf : ∀ r k, r < k → Plants k [] Nothing (f r)) :
    Opens n (m >>= fun r => f r >>= fun _ => pure r) := by
  intro t r t' loose hrun hn ht
  obtain ⟨id, t₁, h₁, h⟩ := run_bind_ok hrun
  obtain ⟨_, t₂, h₂, h₃⟩ := run_bind_ok h
  cases h₃
  obtain ⟨hid, hle₁, ht₁⟩ := hm t _ t₁ _ h₁ hn ht
  obtain ⟨hle₂, ht₂⟩ := hf _ _ hid t₁ _ _ loose h₂ (Nat.le_refl _) ht₁
  exact ⟨Nat.lt_of_lt_of_le hid hle₂, Nat.le_trans hle₁ hle₂, ht₂⟩

theorem pattern_plants (path source : String) : Plants n [] Nothing (pattern scope path source) := by
  unfold pattern
  split
  · exact plants_pure (.refl _)
  · exact plants_throw _

theorem template_plants (path source : String) :
    Plants n [] Nothing (template scope path source) := by
  unfold template
  split
  · exact plants_pure (.refl _)
  · exact plants_throw _

theorem addRule_plants {rule : Rule} (htaken : rule.held.Subperm taken)
    (hinside : ∀ target r, rule = .inclusion target r → r < n) :
    Plants n taken One (addRule rule) := by
  intro t id t' loose hrun hn ht
  cases hrun
  exact ⟨Nat.le_refl _, ht.push htaken fun target r hr => Nat.lt_of_lt_of_le (hinside target r hr) hn⟩

theorem addDependency_plants (own : String) (target : IncludeTarget) :
    Plants n [] Nothing (addDependency own target) := by
  intro t u t' loose hrun _ ht
  unfold addDependency at hrun
  split at hrun
  · split_ifs at hrun <;> cases hrun
    · exact ⟨Nat.le_refl _, ht⟩
    · exact ⟨Nat.le_refl _, ht.congr rfl rfl⟩
  · cases hrun
    exact ⟨Nat.le_refl _, ht⟩

theorem inclusion_plants (reference : String) (hr : repository < n) :
    Plants n [] One (inclusion scope repository reference) := by
  refine (addDependency_plants _ _).bind (l := []) fun _ => addRule_plants (.refl _) ?_
  intro target r h
  cases h
  exact hr

theorem addEntry_plants (name : String) (id : RuleId) :
    Plants n [id] Nothing (addEntry repository name id) := by
  intro t u t' loose hrun _ ht
  cases hrun
  exact ⟨Nat.le_of_eq Array.size_modify.symm, ht.withEntry repository name⟩

theorem single_plants (path : String) (name : Option ScopeName) (source : String)
    {captures : Build CaptureRules} (hc : Plants n [] CaptureRules.held captures) :
    Plants n [] One (single scope path name source captures) := by
  refine (pattern_plants _ _).bind (l := []) fun p => ?_
  exact hc.bind (l := []) fun captures => addRule_plants (.refl _) nofun

theorem region_plants (path : String) (name contentName : Option ScopeName) (source : String)
    {opening closing condition : Build CaptureRules} {nested : Build (List RuleId)}
    (ho : Plants n [] CaptureRules.held opening) (hn : Plants n [] id nested)
    (endPattern whilePattern : Option String) (hc : Plants n [] CaptureRules.held closing)
    (hw : Plants n [] CaptureRules.held condition) (closingLast : Bool) :
    Plants n [] One (region scope path name contentName source opening nested endPattern
      whilePattern closing condition closingLast) := by
  refine (pattern_plants _ _).bind (l := []) fun p => ?_
  refine ho.bind (l := []) fun opening => ?_
  rw [← List.append_nil ([] ++ _)]
  refine hn.bind fun nested => ?_
  -- A region lists what is nested in it first, but it is compiled between the captures.
  have hheld (more : CaptureRules) : (nested ++ (opening ++ more).held).Subperm
      (opening.held ++ nested ++ more.held) := by
    rw [CaptureRules.held_append, ← List.append_assoc]
    exact (List.perm_append_comm.append_right _).subperm
  rw [← List.append_nil ([] ++ _ ++ _)]
  split
  · refine (template_plants _ _).bind fun t => ?_
    exact hc.bind fun closing => addRule_plants (hheld closing) nofun
  · refine (template_plants _ _).bind fun t => ?_
    exact hw.bind fun condition => addRule_plants (hheld condition) nofun
  · exact plants_throw _
  · exact plants_throw _

theorem held_group (ids : List RuleId) : (Rule.group ids).held.Subperm ids :=
  (List.Perm.of_eq (List.append_nil ids)).subperm

theorem group_plants {nested : Build (List RuleId)} (hn : Plants n [] id nested) :
    Plants n [] One (group nested) :=
  hn.bind (l := []) fun ids => addRule_plants (held_group ids) nofun

theorem capture_plants (path key : String) (name contentName : Option ScopeName)
    {patterns : Build (Option RuleId)} (hp : Plants n [] Option.toList patterns)
    (done : CaptureRules) :
    Plants n done.held CaptureRules.held (capture scope path key name contentName patterns done) := by
  unfold capture
  split
  · exact plants_throw _
  · rw [← List.append_nil done.held]
    refine hp.bind fun patterns => ?_
    split
    · refine plants_pure ((CaptureRules.held_set _ _ _).trans ?_)
      exact List.perm_append_comm.subperm
    · exact plants_throw _

mutual

theorem rule_plants (path : String) : ∀ (spec : RuleSpec) {repository n : Nat}, repository < n →
    Plants n [] One (rule scope repository path spec)
  | ⟨reference, name, contentName, matchPattern, captures, beginPattern, beginCaptures, endPattern,
      endCaptures, whilePattern, whileCaptures, patterns, ownRepository, applyEndLast⟩, _, _, hr => by
    rw [Build.rule]
    refine (inner_opens _ ownRepository hr).bind fun repository k hr => ?_
    have hnested := optionalRules_plants path patterns hr
    have hshared := fun path => captureMap_plants path plants_nil captures hr
    have hopening := fun path => captureMap_plants path (hshared path) beginCaptures hr
    have hclosing := fun path => captureMap_plants path (hshared path) endCaptures hr
    have hcondition := fun path => captureMap_plants path (hshared path) whileCaptures hr
    dsimp only
    split
    · exact inclusion_plants _ hr
    · exact plants_throw _
    · exact single_plants _ _ _ (hshared _)
    · exact region_plants _ _ _ _ (hopening _) hnested _ _ (hclosing _) (hcondition _) _
    · split
      · exact plants_throw _
      · exact group_plants hnested

theorem inner_opens (path : String) : ∀ (es : Option (List (String × RuleSpec)))
    {repository n : Nat}, repository < n → Opens n (inner scope repository path es)
  | none, _, _, hr => by
    rw [Build.inner]
    exact opens_pure hr
  | some [], _, _, hr => by
    rw [Build.inner]
    exact opens_pure hr
  | some (e :: es), _, _, hr => by
    rw [Build.inner]
    refine (addRepository_opens fun p hp => ?_).filled fun id k hid => entries_plants path (e :: es) hid
    cases hp
    exact hr

theorem rules_plants (path : String) : ∀ (i : Nat) (specs : List RuleSpec) {repository n : Nat},
    repository < n → Plants n [] id (rules scope repository path i specs)
  | i, [], _, _, hr => by
    rw [Build.rules]
    exact plants_pure (.refl _)
  | i, spec :: specs, _, _, hr => by
    rw [Build.rules]
    refine (rule_plants _ spec hr).bind (l := []) fun id => ?_
    rw [← List.append_nil ([] ++ _)]
    refine (rules_plants path (i + 1) specs hr).bind fun ids => plants_pure (.refl _)

theorem optionalRules_plants (path : String) : ∀ (specs : Option (List RuleSpec))
    {repository n : Nat}, repository < n → Plants n [] id (optionalRules scope repository path specs)
  | none, _, _, hr => by
    rw [Build.optionalRules]
    exact plants_pure (.refl _)
  | some specs, _, _, hr => by
    rw [Build.optionalRules]
    exact rules_plants path 0 specs hr

theorem entries_plants (path : String) : ∀ (es : List (String × RuleSpec)) {repository n : Nat},
    repository < n → Plants n [] Nothing (entries scope repository path es)
  | [], _, _, hr => by
    rw [Build.entries]
    exact plants_pure (.refl _)
  | (name, spec) :: rest, _, _, hr => by
    rw [Build.entries]
    refine (rule_plants _ spec hr).bind (l := []) fun id => ?_
    exact (addEntry_plants name id).bind (l := []) fun _ => entries_plants path rest hr

theorem captureMap_plants (path : String) {otherwise : Build CaptureRules} {n : Nat}
    (ho : Plants n [] CaptureRules.held otherwise) : ∀ (ms : Option (List (String × RuleSpec)))
    {repository : Nat}, repository < n →
    Plants n [] CaptureRules.held (captureMap scope repository path otherwise ms)
  | none, _, hr => by
    rw [Build.captureMap]
    exact ho
  | some ms, _, hr => by
    rw [Build.captureMap]
    exact captureRules_plants path [] ms hr

theorem captureRules_plants (path : String) : ∀ (done : CaptureRules)
    (ms : List (String × RuleSpec)) {repository n : Nat}, repository < n →
    Plants n done.held CaptureRules.held (captureRules scope repository path done ms)
  | done, [], _, _, hr => by
    rw [Build.captureRules]
    exact plants_pure (.refl _)
  | done, (key, ⟨_, name, contentName, _, _, _, _, _, _, _, _, patterns, _, _⟩) :: rest, _, _, hr => by
    rw [Build.captureRules]
    have hpatterns := capturePatterns_plants (childPath path key) patterns hr
    exact (capture_plants _ _ _ _ hpatterns done).bind (l := []) fun done =>
      captureRules_plants path done rest hr

theorem capturePatterns_plants (path : String) : ∀ (specs : Option (List RuleSpec))
    {repository n : Nat}, repository < n →
    Plants n [] Option.toList (capturePatterns scope repository path specs)
  | none, _, _, hr => by
    rw [Build.capturePatterns]
    exact plants_pure (.refl _)
  | some [], _, _, hr => by
    rw [Build.capturePatterns]
    exact plants_pure (.refl _)
  | some (spec :: specs), _, _, hr => by
    rw [Build.capturePatterns, map_eq_pure_bind]
    exact (group_plants (rules_plants path 0 (spec :: specs) hr)).bind (l := []) fun id =>
      plants_pure (.refl _)

end

theorem injections_plants : ∀ (es : List (String × RuleSpec)) {repository n : Nat},
    repository < n → Plants n [] (·.map (·.2)) (injections scope repository es)
  | [], _, _, hr => plants_pure (.refl _)
  | (selector, spec) :: rest, _, _, hr => by
    refine (rule_plants _ spec hr).bind (l := []) fun id => ?_
    rw [← List.append_nil ([] ++ _)]
    exact (injections_plants rest hr).bind fun ids => plants_pure (.refl _)

end Plants

end Build

/-! ## Compiled grammars -/

namespace Grammar

variable {g : Grammar} {d : Descriptor}

def tables (g : Grammar) : Tables := ⟨g.rules, g.repositories, g.dependencies⟩

/-- The rules that the grammar holds itself. -/
def roots (g : Grammar) : List RuleId := g.root :: g.injections.map (·.2)

/-- Where a name leads from a repository, however many of them are around it. All the repositories
on the way are there. -/
inductive Finds (g : Grammar) (name : String) : Option RepositoryId → Option RuleId → Prop where
  | nowhere : Finds g name none none
  | here {r : RepositoryId} {repository : Repository} {id : RuleId} :
    g.repositories[r]? = some repository → repository.entries.lookup name = some id →
    Finds g name (some r) (some id)
  | outwards {r : RepositoryId} {repository : Repository} {found : Option RuleId} :
    g.repositories[r]? = some repository → repository.entries.lookup name = none →
    Finds g name repository.parent found → Finds g name (some r) found

/-- The rules form a forest whose roots the grammar holds. No rule or repository that is named
anywhere is missing, and every name is looked up to the end. -/
structure WellFormed (g : Grammar) : Prop where
  forest : g.tables.Forest g.roots
  outermost : g.rootRepository < g.repositories.size
  rule : ∀ id ∈ g.roots ++ g.tables.held, ∃ rule, g.rule? id = some rule
  entry : ∀ name id, g.entry? name = some id → ∃ rule, g.rule? id = some rule
  lookup : ∀ r < g.repositories.size, ∀ name, g.Finds name (some r) (g.lookup r name) ∧
    ∀ id, g.lookup r name = some id → ∃ rule, g.rule? id = some rule

theorem mem_held_of_lookup {r : RepositoryId} {repository : Repository} {name : String} {id : RuleId}
    (hr : g.repositories[r]? = some repository) (h : repository.entries.lookup name = some id) :
    id ∈ g.tables.held := by
  refine List.mem_append_right _ (List.mem_flatMap.2 ⟨repository, ?_, ?_⟩)
  · exact Array.mem_toList_iff.2 (Array.mem_of_getElem? hr)
  · obtain ⟨before, after, hsplit, -⟩ := List.lookup_eq_some_iff.1 h
    rw [Repository.held, hsplit]
    simp

theorem Finds.mem_held {name : String} {start : Option RepositoryId} {found : Option RuleId}
    (h : g.Finds name start found) : ∀ id, found = some id → id ∈ g.tables.held := by
  induction h with
  | nowhere => exact nofun
  | here hr hid =>
    rintro _ ⟨⟩
    exact mem_held_of_lookup hr hid
  | outwards _ _ _ ih => exact ih

/-- There are more repositories than there are around one of them. -/
theorem lookupFrom_finds (h : g.tables.Forest loose) (name : String) :
    ∀ (fuel : Nat) (r : RepositoryId), r < fuel → r < g.repositories.size →
      g.Finds name (some r) (g.lookupFrom name fuel (some r))
  | fuel + 1, r, hfuel, hr => by
    have hget : g.repositories[r]? = some g.repositories[r] := Array.getElem?_eq_getElem hr
    rw [lookupFrom, hget]
    dsimp only
    split
    · rename_i id hid
      exact .here hget hid
    · rename_i hnone
      refine .outwards hget hnone ?_
      rcases hp : g.repositories[r].parent with _ | p
      · cases fuel <;> exact .nowhere
      · have hlt : p < r := h.parent r p _ hget hp
        exact lookupFrom_finds h name fuel p (Nat.lt_of_lt_of_le hlt (Nat.le_of_lt_succ hfuel))
          (Nat.lt_trans hlt hr)

theorem wellFormed_of_forest (h : g.tables.Forest g.roots)
    (houtermost : g.rootRepository < g.repositories.size) : g.WellFormed := by
  have hrule (id : RuleId) (hid : id ∈ g.roots ++ g.tables.held) : ∃ rule, g.rule? id = some rule := by
    have hlt : id < g.rules.size := h.placed id hid
    exact ⟨g.rules[id], Array.getElem?_eq_getElem hlt⟩
  refine ⟨h, houtermost, hrule, fun name id hid => ?_, fun r hr name => ?_⟩
  · unfold entry? at hid
    split at hid
    · rename_i repository hr
      exact hrule id (List.mem_append_right _ (mem_held_of_lookup hr hid))
    · cases hid
  · have hfinds := lookupFrom_finds h name g.repositories.size r hr hr
    exact ⟨hfinds, fun id hid => hrule id (List.mem_append_right _ (hfinds.mem_held id hid))⟩

/-- What the grammar does not hold itself stands in one place at most. -/
theorem forest_of_compile (hg : compile d = .ok g) :
    g.tables.Forest g.roots ∧ g.rootRepository < g.repositories.size := by
  obtain ⟨_, t₁, patterns, t₂, t₃, h₁, h₂, h₃, hroot, houtermost, hmade⟩ := compile_stages hg
  have hstart := forest_empty.addRepository (fun _ (h : none = some _) => nomatch h)
  obtain ⟨hsize₁, hf₁⟩ := Build.entries_plants _ _ Nat.one_pos _ _ _ [] h₁ (Nat.le_refl _) hstart
  obtain ⟨hsize₂, hf₂⟩ := Build.rules_plants _ _ _ Nat.one_pos _ _ _ [] h₂ hsize₁ hf₁
  have hf := hf₂.push (Build.held_group patterns) nofun
  obtain ⟨hsize₃, hf₃⟩ := Build.injections_plants _ Nat.one_pos _ _ _ _ h₃
    (Nat.le_trans hsize₁ hsize₂) hf
  refine ⟨(hf₃.forget ?_).congr hmade.rules hmade.repositories, ?_⟩
  · rw [roots, hroot]
    exact (List.perm_append_singleton _ _).symm.subperm
  · rw [houtermost, hmade.repositories]
    exact Nat.lt_of_lt_of_le Nat.one_pos (Nat.le_trans (Nat.le_trans hsize₁ hsize₂) hsize₃)

/-- What is nested in a rule of a compiled grammar stands before it in the table, so no group is in
itself. -/
theorem nested_lt (hg : compile d = .ok g) {id : RuleId} {rule : Rule}
    (h : g.rule? id = some rule) : ∀ k ∈ rule.nested, k < id := fun k hk =>
  (forest_of_compile hg).1.before id rule h k (List.mem_append_left _ hk)

/-- A compiled grammar is well formed. -/
theorem wellFormed_of_compile (hg : compile d = .ok g) : g.WellFormed := by
  obtain ⟨hforest, houtermost⟩ := forest_of_compile hg
  exact wellFormed_of_forest hforest houtermost

/-- A group with a letter of its own, which the text of its brackets is looked through for. -/
def bracketsGrammar : Descriptor :=
  { Descriptor.empty with
    scopeName := "source.brackets"
    patterns := [{ RuleSpec.empty with reference := some "#group" }]
    repository := [("group", { RuleSpec.empty with
      beginPattern := some "\\("
      endPattern := some "\\)"
      captures := some [("0", { RuleSpec.empty with
        patterns := some [{ RuleSpec.empty with reference := some "#letter" }] })]
      patterns := some [{ RuleSpec.empty with reference := some "#group" }]
      repository := some [("letter", { RuleSpec.empty with matchPattern := some "a" })] })]
    injections := [("L:source.brackets", { RuleSpec.empty with matchPattern := some "b" })] }

/-- All rules but the root and the injection stand in others or in one of the two repositories,
those for the brackets twice. -/
theorem brackets_wellFormed : ∃ g, compile bracketsGrammar = .ok g ∧ g.rules.size = 10 ∧
    g.repositories.size = 2 ∧ g.roots = [8, 9] ∧ g.tables.held = [1, 4, 3, 2, 5, 7, 6, 0] ∧
    g.lookup 1 "group" = some 6 ∧ g.WellFormed := by
  have hrun : (compile bracketsGrammar).toOption.any (fun g =>
      g.rules.size == 10 && (g.repositories.size == 2 && (g.roots == [8, 9] &&
        (g.tables.held == [1, 4, 3, 2, 5, 7, 6, 0] && g.lookup 1 "group" == some 6)))) = true := by
    decide +kernel
  obtain ⟨g, hg, hrun⟩ := exists_ok_of_any hrun
  simp only [Bool.and_eq_true, beq_iff_eq] at hrun
  obtain ⟨hrules, hrepositories, hroots, hheld, hlookup⟩ := hrun
  exact ⟨g, hg, hrules, hrepositories, hroots, hheld, hlookup, wellFormed_of_compile hg⟩

end Grammar

end Scopelight
