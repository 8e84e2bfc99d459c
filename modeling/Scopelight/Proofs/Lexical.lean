import Scopelight.Proofs.Forest

/-!
# Names are bound where they stand

An include `#name` means the entry of that name in the innermost repository around the include that
has one. The rules of a descriptor become rules of the grammar so that every include finds just this
entry (`Grammar.Becomes`, `compile_binds`). The repository of a rule is around its captures too; but
the repository that a capture has for itself is left out, and its entries are never found
(`capture_repository_unopened`).

While the repository around a rule is still being filled, an include cannot be looked up yet. What a
part of the build adds is therefore compared with the grammar in the end (`Build.Lays`).
-/

namespace Scopelight

open Text

/-- An entry of a repository and the rule that it has become. -/
structure Binding where
  name : String
  spec : RuleSpec
  id : RuleId

/-- The entries of the repositories around a place, those of the innermost one first. -/
abbrev Scopes := List (List Binding)

/-- The entry of a name in the innermost repository that has one. -/
def Scopes.find? (name : String) : Scopes → Option Binding
  | [] => none
  | own :: outer => (own.find? (name == ·.name)).or (find? name outer)

namespace Grammar

variable (g : Grammar)

mutual

/-- What a rule of a descriptor has become, inside these repositories. An include finds for every name
the innermost entry around it, and nothing if there is none. -/
inductive Becomes : Scopes → RuleSpec → RuleId → Prop where
  | inclusion {scopes inside : Scopes} {spec : RuleSpec} {reference : String} {r : RepositoryId}
      {id : RuleId} :
    Within scopes spec.repository inside → spec.reference = some reference →
    g.rule? id = some (.inclusion (.ofString reference) r) →
    (∀ name, g.lookup r name = (inside.find? name).map (·.id)) → Becomes scopes spec id
  | single {scopes inside : Scopes} {spec : RuleSpec} {source : String} {p : Pattern}
      {captures : CaptureRules} {id : RuleId} :
    Within scopes spec.repository inside → spec.reference = none → spec.beginPattern = none →
    spec.matchPattern = some source → Pattern.compile source = .ok p →
    Captured inside [] (spec.captures.getD []) captures →
    g.rule? id = some (.single ⟨spec.name.map .mk, p, captures⟩) → Becomes scopes spec id
  | region {scopes inside : Scopes} {spec : RuleSpec} {source endSource : String} {p : Pattern}
      {closing : EndTemplate} {openingCaptures closingCaptures : CaptureRules}
      {nested : List RuleId} {id : RuleId} :
    Within scopes spec.repository inside → spec.reference = none → spec.matchPattern = none →
    spec.beginPattern = some source → Pattern.compile source = .ok p →
    spec.endPattern = some endSource → spec.whilePattern = none →
    EndTemplate.compile endSource = .ok closing →
    Captured inside [] ((spec.beginCaptures.or spec.captures).getD []) openingCaptures →
    AllBecome inside (spec.patterns.getD []) nested →
    Captured inside [] ((spec.endCaptures.or spec.captures).getD []) closingCaptures →
    g.rule? id = some (.region ⟨spec.name.map .mk, spec.contentName.map .mk, p, closing,
      openingCaptures, closingCaptures, nested, spec.applyEndLast⟩) → Becomes scopes spec id
  | whileRegion {scopes inside : Scopes} {spec : RuleSpec} {source whileSource : String} {p : Pattern}
      {condition : EndTemplate} {openingCaptures conditionCaptures : CaptureRules}
      {nested : List RuleId} {id : RuleId} :
    Within scopes spec.repository inside → spec.reference = none → spec.matchPattern = none →
    spec.beginPattern = some source → Pattern.compile source = .ok p →
    spec.endPattern = none → spec.whilePattern = some whileSource →
    EndTemplate.compile whileSource = .ok condition →
    Captured inside [] ((spec.beginCaptures.or spec.captures).getD []) openingCaptures →
    AllBecome inside (spec.patterns.getD []) nested →
    Captured inside [] ((spec.whileCaptures.or spec.captures).getD []) conditionCaptures →
    g.rule? id = some (.whileRegion ⟨spec.name.map .mk, spec.contentName.map .mk, p, condition,
      openingCaptures, conditionCaptures, nested⟩) → Becomes scopes spec id
  | group {scopes inside : Scopes} {spec : RuleSpec} {nested : List RuleId} {id : RuleId} :
    Within scopes spec.repository inside → spec.reference = none → spec.matchPattern = none →
    spec.beginPattern = none → spec.endPattern = none → spec.whilePattern = none →
    AllBecome inside (spec.patterns.getD []) nested →
    g.rule? id = some (.group nested) → Becomes scopes spec id

inductive AllBecome : Scopes → List RuleSpec → List RuleId → Prop where
  | nil {scopes : Scopes} : AllBecome scopes [] []
  | cons {scopes : Scopes} {spec : RuleSpec} {specs : List RuleSpec} {id : RuleId}
      {ids : List RuleId} :
    Becomes scopes spec id → AllBecome scopes specs ids →
    AllBecome scopes (spec :: specs) (id :: ids)

/-- What the entries of a repository have become. -/
inductive Bound : Scopes → List (String × RuleSpec) → List Binding → Prop where
  | nil {scopes : Scopes} : Bound scopes [] []
  | cons {scopes : Scopes} {name : String} {spec : RuleSpec} {entries : List (String × RuleSpec)}
      {id : RuleId} {bindings : List Binding} :
    Becomes scopes spec id → Bound scopes entries bindings →
    Bound scopes ((name, spec) :: entries) (⟨name, spec, id⟩ :: bindings)

/-- The repositories that are around what is inside a rule, its own one included. Its own entries may
include each other. -/
inductive Within : Scopes → Option (List (String × RuleSpec)) → Scopes → Prop where
  | outside {scopes : Scopes} {entries : Option (List (String × RuleSpec))} :
    entries.getD [] = [] → Within scopes entries scopes
  | opened {scopes : Scopes} {entries : List (String × RuleSpec)} {own : List Binding} :
    Bound (own :: scopes) entries own → Within scopes (some entries) (own :: scopes)

/-- What the rules of captures have become, after those done already. The repositories around them
are those around the rule that has the captures: their own do not count. -/
inductive Captured : Scopes → CaptureRules → List (String × RuleSpec) → CaptureRules → Prop where
  | nil {scopes : Scopes} {done : CaptureRules} : Captured scopes done [] done
  | cons {scopes : Scopes} {done captures : CaptureRules} {key : String} {spec : RuleSpec}
      {rest : List (String × RuleSpec)} {n : Nat} {patterns : Option RuleId} :
    captureNumber? key = some n → Again scopes (spec.patterns.getD []) patterns →
    Captured scopes (done.set n ⟨spec.name.map .mk, spec.contentName.map .mk, patterns⟩) rest
      captures →
    Captured scopes done ((key, spec) :: rest) captures

/-- What the rules have become by which the text of a capture is tokenized again. -/
inductive Again : Scopes → List RuleSpec → Option RuleId → Prop where
  | nothing {scopes : Scopes} : Again scopes [] none
  | group {scopes : Scopes} {spec : RuleSpec} {specs : List RuleSpec} {ids : List RuleId}
      {id : RuleId} :
    AllBecome scopes (spec :: specs) ids → g.rule? id = some (.group ids) →
    Again scopes (spec :: specs) (some id)

end

/-- A repository of the grammar has these entries, and those around it have the others. -/
inductive Realizes : RepositoryId → Scopes → Prop where
  | outermost {r : RepositoryId} {own : List Binding} :
    g.repositories[r]? = some ⟨none, own.map fun b => (b.name, b.id)⟩ → Realizes r [own]
  | inner {r p : RepositoryId} {own : List Binding} {scopes : Scopes} :
    g.repositories[r]? = some ⟨some p, own.map fun b => (b.name, b.id)⟩ → Realizes p scopes →
    Realizes r (own :: scopes)

variable {g} {name : String}

theorem lookup_bindings (own : List Binding) :
    (own.map fun b => (b.name, b.id)).lookup name = (own.find? (name == ·.name)).map (·.id) := by
  induction own with
  | nil => rfl
  | cons b own ih =>
    rw [List.map_cons, List.lookup_cons, List.find?_cons]
    split <;> simp_all

theorem Finds.unique {start : Option RepositoryId} {found found' : Option RuleId}
    (h : g.Finds name start found) (h' : g.Finds name start found') : found = found' := by
  induction h with
  | nowhere =>
    cases h'
    rfl
  | here hr hid =>
    cases h' with
    | here hr' hid' =>
      cases hr.symm.trans hr'
      exact hid.symm.trans hid'
    | outwards hr' hnone' =>
      cases hr.symm.trans hr'
      cases hid.symm.trans hnone'
  | outwards hr hnone _ ih =>
    cases h' with
    | here hr' hid' =>
      cases hr.symm.trans hr'
      cases hnone.symm.trans hid'
    | outwards hr' _ h' =>
      cases hr.symm.trans hr'
      exact ih h'

theorem Realizes.finds {r : RepositoryId} {scopes : Scopes} (h : g.Realizes r scopes) (name : String) :
    g.Finds name (some r) ((scopes.find? name).map (·.id)) := by
  induction h with
  | outermost hr =>
    rename_i r own
    rcases hown : own.find? (name == ·.name) with _ | b
    · simpa [Scopes.find?, hown] using Finds.outwards hr (by simp [lookup_bindings, hown]) .nowhere
    · simpa [Scopes.find?, hown] using Finds.here hr (by simp [lookup_bindings, hown])
  | inner hr _ ih =>
    rename_i r p own scopes _
    rcases hown : own.find? (name == ·.name) with _ | b
    · simpa [Scopes.find?, hown] using Finds.outwards hr (by simp [lookup_bindings, hown]) ih
    · simpa [Scopes.find?, hown] using Finds.here hr (by simp [lookup_bindings, hown])

/-- A name is looked up in the entries around it. -/
def Lexical (g : Grammar) : Prop := ∀ {r : RepositoryId} {scopes : Scopes}, g.Realizes r scopes →
  ∀ name, g.lookup r name = (scopes.find? name).map (·.id)

theorem lexical_of_forest {loose : List RuleId} (hforest : g.tables.Forest loose) : g.Lexical := by
  intro r scopes h name
  have hr : r < g.repositories.size := by
    cases h <;> exact (Array.getElem?_eq_some_iff.1 ‹_›).1
  exact (lookupFrom_finds hforest name _ r hr hr).unique (h.finds name)

end Grammar

/-! ## Parts of a build -/

/-- Rules and repositories have been added. Those that were there are as they were, but for a
repository that is being filled. -/
structure Tables.Extends (filled : Option RepositoryId) (t t' : Tables) : Prop where
  rules : ∀ (id : RuleId) (rule : Rule), t.rules[id]? = some rule → t'.rules[id]? = some rule
  size : t.repositories.size ≤ t'.repositories.size
  repositories : ∀ r < t.repositories.size, some r ≠ filled →
    t'.repositories[r]? = t.repositories[r]?

/-- All rules, and the repositories that have been added, are in the grammar as they are. -/
structure Grammar.Has (g : Grammar) (t t' : Tables) : Prop where
  rules : ∀ (id : RuleId) (rule : Rule), t'.rules[id]? = some rule → g.rule? id = some rule
  repositories : ∀ r, t.repositories.size ≤ r → r < t'.repositories.size →
    g.repositories[r]? = t'.repositories[r]?

section Extends

variable {filled : Option RepositoryId} {t t₁ t' : Tables} {g : Grammar}

theorem Tables.Extends.refl (t : Tables) : t.Extends filled t :=
  ⟨fun _ _ h => h, Nat.le_refl _, fun _ _ _ => rfl⟩

theorem Tables.Extends.trans (h : t.Extends filled t₁) (h' : t₁.Extends filled t') :
    t.Extends filled t' where
  rules id rule hid := h'.rules id rule (h.rules id rule hid)
  size := Nat.le_trans h.size h'.size
  repositories r hr hne :=
    (h'.repositories r (Nat.lt_of_lt_of_le hr h.size) hne).trans (h.repositories r hr hne)

theorem Tables.Extends.filling (h : t.Extends none t') : t.Extends filled t' :=
  ⟨h.rules, h.size, fun r hr _ => h.repositories r hr nofun⟩

/-- What is added first is in the grammar if nothing that comes after changes it. -/
theorem Grammar.Has.first (h : g.Has t t') (h₁ : t₁.Extends filled t')
    (hfilled : ∀ r, filled = some r → r < t.repositories.size) : g.Has t t₁ where
  rules id rule hid := h.rules id rule (h₁.rules id rule hid)
  repositories r hle hlt := by
    rw [h.repositories r hle (Nat.lt_of_lt_of_le hlt h₁.size)]
    refine h₁.repositories r hlt fun hr => ?_
    exact Nat.not_lt.2 hle (hfilled r hr.symm)

theorem Grammar.Has.then (h : g.Has t t') (h₁ : t.Extends filled t₁) : g.Has t₁ t' :=
  ⟨h.rules, fun r hle hlt => h.repositories r (Nat.le_trans h₁.size hle) hlt⟩

theorem extends_push (t : Tables) (rule : Rule) (dependencies : List String) :
    t.Extends none ⟨t.rules.push rule, t.repositories, dependencies⟩ := by
  refine ⟨fun id old hid => ?_, Nat.le_refl _, fun _ _ _ => rfl⟩
  obtain ⟨hlt, -⟩ := Array.getElem?_eq_some_iff.1 hid
  rw [Array.getElem?_push, if_neg (Nat.ne_of_lt hlt)]
  exact hid

end Extends

namespace Build

/-- If the build succeeds it only adds to the tables. Once all that it adds is in the grammar, and so
are the entries around the repository, the answer is as it should be inside them. -/
def Lays {α : Type} (g : Grammar) (repository : RepositoryId) (Q : Scopes → α → Prop)
    (m : Build α) : Prop :=
  ∀ t a t', m.run t = .ok (a, t') → t.Extends none t' ∧
    (g.Has t t' → ∀ scopes, g.Realizes repository scopes → Q scopes a)

section Lays

variable {α β : Type} {g : Grammar} {repository : RepositoryId} {Q : Scopes → α → Prop}
  {R : Scopes → β → Prop} {m : Build α} {scope : String}

theorem lays_pure {a : α} (h : ∀ scopes, Q scopes a) : Lays g repository Q (pure a) := by
  intro t a t' hrun
  cases hrun
  exact ⟨.refl t, fun _ scopes _ => h scopes⟩

theorem lays_throw (e : GrammarError) : Lays g repository Q (throw e) := by
  intro t a t' hrun
  cases hrun

theorem Lays.mono (hm : Lays g repository Q m) {Q' : Scopes → α → Prop}
    (h : ∀ scopes a, Q scopes a → Q' scopes a) : Lays g repository Q' m := by
  intro t a t' hrun
  obtain ⟨hext, ha⟩ := hm t a t' hrun
  exact ⟨hext, fun hhas scopes hscopes => h scopes a (ha hhas scopes hscopes)⟩

theorem Lays.realized (hm : Lays g repository Q m) :
    Lays g repository (fun scopes a => Q scopes a ∧ g.Realizes repository scopes) m := by
  intro t a t' hrun
  obtain ⟨hext, ha⟩ := hm t a t' hrun
  exact ⟨hext, fun hhas scopes hscopes => ⟨ha hhas scopes hscopes, hscopes⟩⟩

theorem Lays.bind (hm : Lays g repository Q m) {f : α → Build β}
    (hf : ∀ a, Lays g repository (fun scopes b => Q scopes a → R scopes b) (f a)) :
    Lays g repository R (m >>= f) := by
  intro t b t' hrun
  obtain ⟨a, t₁, h₁, h₂⟩ := run_bind_ok hrun
  obtain ⟨hext₁, ha⟩ := hm t a t₁ h₁
  obtain ⟨hext₂, hb⟩ := hf a t₁ b t' h₂
  refine ⟨hext₁.trans hext₂, fun hhas scopes hscopes => ?_⟩
  exact hb (hhas.then hext₁) scopes hscopes (ha (hhas.first hext₂ nofun) scopes hscopes)

theorem Lays.map (hm : Lays g repository Q m) (f : α → β) :
    Lays g repository (fun scopes b => ∃ a, Q scopes a ∧ f a = b) (f <$> m) := by
  rw [map_eq_pure_bind]
  exact hm.bind fun a => lays_pure fun _ ha => ⟨a, ha, rfl⟩

theorem pattern_lays (path source : String) :
    Lays g repository (fun _ p => Pattern.compile source = .ok p) (pattern scope path source) := by
  unfold pattern
  split
  · rename_i hp
    exact lays_pure fun _ => hp
  · exact lays_throw _

theorem template_lays (path source : String) :
    Lays g repository (fun _ e => EndTemplate.compile source = .ok e)
      (template scope path source) := by
  unfold template
  split
  · rename_i he
    exact lays_pure fun _ => he
  · exact lays_throw _

theorem addRule_lays (rule : Rule) :
    Lays g repository (fun _ id => g.rule? id = some rule) (addRule rule) := by
  intro t id t' hrun
  cases hrun
  refine ⟨extends_push t rule _, fun hhas _ _ => hhas.rules _ _ ?_⟩
  exact Array.getElem?_push_size

theorem addDependency_lays (own : String) (target : IncludeTarget) :
    Lays g repository (fun _ _ => True) (addDependency own target) := by
  unfold addDependency
  split
  · split_ifs
    · exact lays_pure fun _ => trivial
    · intro t u t' hrun
      cases hrun
      exact ⟨⟨fun _ _ h => h, Nat.le_refl _, fun _ _ _ => rfl⟩, fun _ _ _ => trivial⟩
  · exact lays_pure fun _ => trivial

theorem inclusion_lays (h : g.Lexical) (reference : String) :
    Lays g repository (fun scopes id => ∃ r,
      g.rule? id = some (.inclusion (.ofString reference) r) ∧
      ∀ name, g.lookup r name = (scopes.find? name).map (·.id))
      (inclusion scope repository reference) := by
  refine (addDependency_lays _ _).bind fun _ => (addRule_lays _).realized.mono ?_
  exact fun scopes id ⟨hid, hscopes⟩ _ => ⟨repository, hid, h hscopes⟩

theorem single_lays (path : String) (name : Option ScopeName) (source : String)
    {captures : Build CaptureRules} {C : Scopes → CaptureRules → Prop}
    (hc : Lays g repository C captures) :
    Lays g repository (fun scopes id => ∃ p captures, Pattern.compile source = .ok p ∧
      C scopes captures ∧ g.rule? id = some (.single ⟨name, p, captures⟩))
      (single scope path name source captures) := by
  refine (pattern_lays _ _).bind fun p => hc.bind fun captures => ?_
  exact (addRule_lays _).mono fun scopes id hid hcaptures hp => ⟨p, captures, hp, hcaptures, hid⟩

/-- What a region becomes, when its end and while patterns are compiled. -/
def Closed (g : Grammar) (name contentName : Option ScopeName) (p : Pattern)
    (openingCaptures : CaptureRules) (nested : List RuleId) (endPattern whilePattern : Option String)
    (C W : CaptureRules → Prop) (closingLast : Bool) (id : RuleId) : Prop :=
  (∃ source closing closingCaptures, endPattern = some source ∧ whilePattern = none ∧
    EndTemplate.compile source = .ok closing ∧ C closingCaptures ∧
    g.rule? id = some (.region ⟨name, contentName, p, closing, openingCaptures, closingCaptures,
      nested, closingLast⟩)) ∨
  ∃ source condition conditionCaptures, endPattern = none ∧ whilePattern = some source ∧
    EndTemplate.compile source = .ok condition ∧ W conditionCaptures ∧
    g.rule? id = some (.whileRegion ⟨name, contentName, p, condition, openingCaptures,
      conditionCaptures, nested⟩)

theorem region_lays (path : String) (name contentName : Option ScopeName) (source : String)
    {opening closing condition : Build CaptureRules} {nested : Build (List RuleId)}
    {O C W : Scopes → CaptureRules → Prop} {N : Scopes → List RuleId → Prop}
    (ho : Lays g repository O opening) (hn : Lays g repository N nested)
    (endPattern whilePattern : Option String) (hc : Lays g repository C closing)
    (hw : Lays g repository W condition) (closingLast : Bool) :
    Lays g repository (fun scopes id => ∃ p openingCaptures nested,
      Pattern.compile source = .ok p ∧ O scopes openingCaptures ∧ N scopes nested ∧
      Closed g name contentName p openingCaptures nested endPattern whilePattern (C scopes)
        (W scopes) closingLast id)
      (region scope path name contentName source opening nested endPattern whilePattern closing
        condition closingLast) := by
  refine (pattern_lays _ _).bind fun p => ho.bind fun opening => hn.bind fun nested => ?_
  split
  · refine (template_lays _ _).bind fun e => hc.bind fun closing => (addRule_lays _).mono ?_
    intro scopes id hid hclosing he hnested hopening hp
    exact ⟨p, opening, nested, hp, hopening, hnested, .inl ⟨_, e, closing, rfl, rfl, he, hclosing, hid⟩⟩
  · refine (template_lays _ _).bind fun e => hw.bind fun condition => (addRule_lays _).mono ?_
    intro scopes id hid hcondition he hnested hopening hp
    exact ⟨p, opening, nested, hp, hopening, hnested,
      .inr ⟨_, e, condition, rfl, rfl, he, hcondition, hid⟩⟩
  · exact lays_throw _
  · exact lays_throw _

theorem group_lays {nested : Build (List RuleId)} {N : Scopes → List RuleId → Prop}
    (hn : Lays g repository N nested) :
    Lays g repository (fun scopes id => ∃ ids, N scopes ids ∧ g.rule? id = some (.group ids))
      (group nested) :=
  hn.bind fun ids => (addRule_lays _).mono fun _ _ hid hids => ⟨ids, hids, hid⟩

theorem capture_lays (path key : String) (name contentName : Option ScopeName)
    {patterns : Build (Option RuleId)} {P : Scopes → Option RuleId → Prop}
    (hp : Lays g repository P patterns) (done : CaptureRules) :
    Lays g repository (fun scopes captures => ∃ n patterns, captureNumber? key = some n ∧
      P scopes patterns ∧ captures = done.set n ⟨name, contentName, patterns⟩)
      (capture scope path key name contentName patterns done) := by
  unfold capture
  split
  · exact lays_throw _
  · rename_i n hn
    refine hp.bind fun patterns => ?_
    split
    · exact lays_pure fun _ hpatterns => ⟨n, patterns, hn, hpatterns, rfl⟩
    · exact lays_throw _

/-- The rest of the build is inside the repository that the first part answers. -/
theorem Lays.within {es : Option (List (String × RuleSpec))} {m : Build RepositoryId}
    (hm : Lays g repository (fun scopes r => ∃ inside, g.Within scopes es inside ∧
      g.Realizes r inside) m) {f : RepositoryId → Build β}
    (hf : ∀ r, Lays g r (fun inside b => ∀ scopes, g.Within scopes es inside → R scopes b) (f r)) :
    Lays g repository R (m >>= f) := by
  intro t b t' hrun
  obtain ⟨r, t₁, h₁, h₂⟩ := run_bind_ok hrun
  obtain ⟨hext₁, hr⟩ := hm t r t₁ h₁
  obtain ⟨hext₂, hb⟩ := hf r t₁ b t' h₂
  refine ⟨hext₁.trans hext₂, fun hhas scopes hscopes => ?_⟩
  obtain ⟨inside, hwithin, hinside⟩ := hr (hhas.first hext₂ nofun) scopes hscopes
  exact hb (hhas.then hext₁) inside hinside scopes hwithin

/-- A repository is filled. Its entries are what they should be inside what it has in the end. -/
def Fills (g : Grammar) (r : RepositoryId) (es : List (String × RuleSpec)) (m : Build Unit) : Prop :=
  ∀ t u t' repository, m.run t = .ok (u, t') → t.repositories[r]? = some repository →
    t.Extends (some r) t' ∧ ∃ own : List Binding,
      t'.repositories[r]? = some ⟨repository.parent,
        repository.entries ++ own.map fun b => (b.name, b.id)⟩ ∧
      (g.Has t t' → ∀ scopes, g.Realizes r scopes → g.Bound scopes es own)

theorem fills_nil (r : RepositoryId) : Fills g r [] (pure ()) := by
  intro t u t' repository hrun hr
  cases hrun
  exact ⟨.refl t, [], by simp [hr], fun _ scopes _ => .nil⟩

theorem fills_cons {r : RepositoryId} {name : String} {spec : RuleSpec}
    {es : List (String × RuleSpec)} {compiled : Build RuleId} {rest : Build Unit}
    (hrule : Lays g r (fun scopes id => g.Becomes scopes spec id) compiled)
    (hrest : Fills g r es rest) :
    Fills g r ((name, spec) :: es) (compiled >>= fun id => addEntry r name id >>= fun _ => rest) := by
  intro t u t' repository hrun hr
  obtain ⟨id, t₁, h₁, h⟩ := run_bind_ok hrun
  obtain ⟨_, t₂, h₂, h₃⟩ := run_bind_ok h
  obtain ⟨hext₁, hid⟩ := hrule t id t₁ h₁
  have hlt : r < t.repositories.size := (Array.getElem?_eq_some_iff.1 hr).1
  have hr₁ : t₁.repositories[r]? = some repository :=
    (hext₁.repositories r hlt nofun).trans hr
  have hext₂ : t₁.Extends (some r) t₂ := by
    cases h₂
    refine ⟨fun _ _ h => h, Nat.le_of_eq Array.size_modify.symm, fun r' _ hne => ?_⟩
    rw [Array.getElem?_modify, if_neg fun h => hne (congrArg some h.symm)]
  have hr₂ : t₂.repositories[r]? = some ⟨repository.parent, repository.entries ++ [(name, id)]⟩ := by
    cases h₂
    simp [Array.getElem?_modify, hr₁]
  obtain ⟨hext₃, own, hown, hbound⟩ := hrest t₂ u t' _ h₃ hr₂
  have hext := hext₂.trans hext₃
  refine ⟨hext₁.filling.trans hext, ⟨name, spec, id⟩ :: own, ?_, fun hhas scopes hscopes => ?_⟩
  · simpa using hown
  · have hfirst := hhas.first hext fun r' h => by
      cases h
      exact hlt
    exact .cons (hid hfirst scopes hscopes) (hbound ((hhas.then hext₁).then hext₂) scopes hscopes)

theorem lays_outside {es : Option (List (String × RuleSpec))} (h : es.getD [] = []) :
    Lays g repository (fun scopes r => ∃ inside, g.Within scopes es inside ∧ g.Realizes r inside)
      (pure repository) := by
  intro t r t' hrun
  cases hrun
  exact ⟨.refl t, fun _ scopes hscopes => ⟨scopes, .outside h, hscopes⟩⟩

theorem inner_lays {es : List (String × RuleSpec)} {fill : RepositoryId → Build Unit}
    (hfill : ∀ r, Fills g r es (fill r)) :
    Lays g repository (fun scopes r => ∃ inside, g.Within scopes (some es) inside ∧
      g.Realizes r inside) (addRepository (some repository) >>= fun r => fill r >>= fun _ => pure r) := by
  intro t r t' hrun
  obtain ⟨id, t₁, h₁, h⟩ := run_bind_ok hrun
  obtain ⟨u, t₂, h₂, h₃⟩ := run_bind_ok h
  cases h₃
  cases h₁
  have hopened : t.Extends none ⟨t.rules, t.repositories.push ⟨some repository, []⟩,
      t.dependencies⟩ := by
    refine ⟨fun _ _ h => h, (Array.size_push _).symm ▸ Nat.le_succ _, fun r hr _ => ?_⟩
    rw [Array.getElem?_push, if_neg (Nat.ne_of_lt hr)]
  obtain ⟨hext, own, hown, hbound⟩ := hfill _ _ u t' _ h₂ Array.getElem?_push_size
  refine ⟨⟨hext.rules, Nat.le_trans hopened.size hext.size, fun r hr _ => ?_⟩,
    fun hhas scopes hscopes => ?_⟩
  · rw [hext.repositories r (Nat.lt_of_lt_of_le hr hopened.size)
      fun h => Nat.ne_of_lt hr (Option.some.inj h)]
    exact hopened.repositories r hr nofun
  · have hlt : t.repositories.size < t'.repositories.size := (Array.getElem?_eq_some_iff.1 hown).1
    have hreal : g.Realizes t.repositories.size (own :: scopes) :=
      .inner ((hhas.repositories _ (Nat.le_refl _) hlt).trans hown) hscopes
    exact ⟨_, .opened (hbound (hhas.then hopened) _ hreal), hreal⟩

mutual

theorem rule_lays (h : g.Lexical) (path : String) : ∀ (spec : RuleSpec) {repository : RepositoryId},
    Lays g repository (fun scopes id => g.Becomes scopes spec id) (rule scope repository path spec)
  | ⟨reference, name, contentName, matchPattern, captures, beginPattern, beginCaptures, endPattern,
      endCaptures, whilePattern, whileCaptures, patterns, ownRepository, applyEndLast⟩, _ => by
    rw [Build.rule]
    refine (own_lays h _ ownRepository).within fun repository => ?_
    have hnested : Lays g repository _ _ := optionalRules_lays h path patterns
    have hnone : Lays g repository (fun scopes cs => g.Captured scopes []
        ((none : Option (List (String × RuleSpec))).getD []) cs) (pure []) := lays_pure fun _ => .nil
    have hshared := fun path => captureMap_lays h path hnone captures
    simp only [Option.or_none] at hshared
    have hopening := fun path => captureMap_lays h path (hshared path) beginCaptures
    have hclosing := fun path => captureMap_lays h path (hshared path) endCaptures
    have hcondition := fun path => captureMap_lays h path (hshared path) whileCaptures
    dsimp only
    split
    · refine (inclusion_lays h _).mono ?_
      rintro inside id ⟨r, hid, hr⟩ scopes hwithin
      exact .inclusion hwithin rfl hid hr
    · exact lays_throw _
    · refine (single_lays _ _ _ (hshared _)).mono ?_
      rintro inside id ⟨p, cs, hp, hcs, hid⟩ scopes hwithin
      exact .single hwithin rfl rfl rfl hp hcs hid
    · refine (region_lays _ _ _ _ (hopening _) hnested _ _ (hclosing _) (hcondition _) _).mono ?_
      rintro inside id ⟨p, cs, ids, hp, hcs, hids, hend | hwhile⟩ scopes hwithin
      · obtain ⟨_, e, cs', hend, hnone, he, hcs', hid⟩ := hend
        exact .region hwithin rfl rfl rfl hp hend hnone he hcs hids hcs' hid
      · obtain ⟨_, e, cs', hnone, hwhile, he, hcs', hid⟩ := hwhile
        exact .whileRegion hwithin rfl rfl rfl hp hnone hwhile he hcs hids hcs' hid
    · split
      · exact lays_throw _
      · rename_i hends
        refine (group_lays hnested).mono ?_
        rintro inside id ⟨ids, hids, hid⟩ scopes hwithin
        simp only [Bool.or_eq_true, not_or, Bool.not_eq_true, Option.isSome_eq_false_iff,
          Option.isNone_iff_eq_none] at hends
        exact .group hwithin rfl rfl rfl hends.1 hends.2 hids hid

theorem own_lays (h : g.Lexical) (path : String) : ∀ (es : Option (List (String × RuleSpec)))
    {repository : RepositoryId}, Lays g repository (fun scopes r => ∃ inside,
      g.Within scopes es inside ∧ g.Realizes r inside) (inner scope repository path es)
  | none, _ => by
    rw [Build.inner]
    exact lays_outside rfl
  | some [], _ => by
    rw [Build.inner]
    exact lays_outside rfl
  | some (e :: es), _ => by
    rw [Build.inner]
    exact inner_lays fun r => entries_fill h path (e :: es) r

theorem rules_lays (h : g.Lexical) (path : String) : ∀ (i : Nat) (specs : List RuleSpec)
    {repository : RepositoryId}, Lays g repository (fun scopes ids => g.AllBecome scopes specs ids)
      (rules scope repository path i specs)
  | i, [], _ => by
    rw [Build.rules]
    exact lays_pure fun _ => .nil
  | i, spec :: specs, _ => by
    rw [Build.rules]
    refine (rule_lays h _ spec).bind fun id => (rules_lays h path (i + 1) specs).bind fun ids => ?_
    exact lays_pure fun _ hids hid => .cons hid hids

theorem optionalRules_lays (h : g.Lexical) (path : String) : ∀ (specs : Option (List RuleSpec))
    {repository : RepositoryId}, Lays g repository
      (fun scopes ids => g.AllBecome scopes (specs.getD []) ids)
      (optionalRules scope repository path specs)
  | none, _ => by
    rw [Build.optionalRules]
    exact lays_pure fun _ => .nil
  | some specs, _ => by
    rw [Build.optionalRules]
    exact rules_lays h path 0 specs

theorem entries_fill (h : g.Lexical) (path : String) : ∀ (es : List (String × RuleSpec))
    (r : RepositoryId), Fills g r es (entries scope r path es)
  | [], r => by
    rw [Build.entries]
    exact fills_nil r
  | (name, spec) :: rest, r => by
    rw [Build.entries]
    exact fills_cons (rule_lays h _ spec) (entries_fill h path rest r)

theorem captureMap_lays (h : g.Lexical) (path : String) {otherwise : Build CaptureRules}
    {repository : RepositoryId} {others : Option (List (String × RuleSpec))}
    (ho : Lays g repository (fun scopes cs => g.Captured scopes [] (others.getD []) cs) otherwise) :
    ∀ ms : Option (List (String × RuleSpec)), Lays g repository
      (fun scopes cs => g.Captured scopes [] ((ms.or others).getD []) cs)
      (captureMap scope repository path otherwise ms)
  | none => by
    rw [Build.captureMap]
    exact ho
  | some ms => by
    rw [Build.captureMap]
    exact captureRules_lays h path [] ms

theorem captureRules_lays (h : g.Lexical) (path : String) : ∀ (done : CaptureRules)
    (ms : List (String × RuleSpec)) {repository : RepositoryId}, Lays g repository
      (fun scopes cs => g.Captured scopes done ms cs) (captureRules scope repository path done ms)
  | done, [], _ => by
    rw [Build.captureRules]
    exact lays_pure fun _ => .nil
  | done, (key, ⟨_, name, contentName, _, _, _, _, _, _, _, _, patterns, _, _⟩) :: rest, _ => by
    rw [Build.captureRules]
    refine (capture_lays _ _ _ _ (capturePatterns_lays h (childPath path key) patterns) done).bind
      fun done => (captureRules_lays h path done rest).mono ?_
    rintro scopes cs hrest ⟨n, ids, hn, hids, rfl⟩
    exact .cons hn hids hrest

theorem capturePatterns_lays (h : g.Lexical) (path : String) : ∀ (specs : Option (List RuleSpec))
    {repository : RepositoryId}, Lays g repository
      (fun scopes id => g.Again scopes (specs.getD []) id)
      (capturePatterns scope repository path specs)
  | none, _ => by
    rw [Build.capturePatterns]
    exact lays_pure fun _ => .nothing
  | some [], _ => by
    rw [Build.capturePatterns]
    exact lays_pure fun _ => .nothing
  | some (spec :: specs), _ => by
    rw [Build.capturePatterns]
    refine ((group_lays (rules_lays h path 0 (spec :: specs))).map some).mono ?_
    rintro scopes _ ⟨id, ⟨ids, hids, hid⟩, rfl⟩
    exact .group hids hid

end

theorem injections_lays (h : g.Lexical) : ∀ (es : List (String × RuleSpec))
    {repository : RepositoryId}, Lays g repository
      (fun scopes is => es.Forall₂ (fun e i => i.1 = Selector.ofString e.1 ∧
        g.Becomes scopes e.2 i.2) is) (injections scope repository es)
  | [], _ => lays_pure fun _ => .nil
  | (selector, spec) :: rest, _ => by
    refine (rule_lays h _ spec).bind fun id => (injections_lays h rest).bind fun is => ?_
    exact lays_pure fun _ his hid => .cons ⟨rfl, hid⟩ his

end Lays

end Build

namespace Grammar

variable {d : Descriptor} {g : Grammar}

/-- All rules of the descriptor have become rules of the grammar, whose includes find the innermost
entries around them. -/
def Binds (g : Grammar) (d : Descriptor) : Prop :=
  ∃ top : List Binding, g.Bound [top] d.repository top ∧
    (∃ ids, g.rule? g.root = some (.group ids) ∧ g.AllBecome [top] d.patterns ids) ∧
    d.injections.Forall₂ (fun e i => i.1 = Selector.ofString e.1 ∧ g.Becomes [top] e.2 i.2)
      g.injections

/-- Includes are bound where they stand. -/
theorem compile_binds (hg : compile d = .ok g) : g.Binds d := by
  have hlexical : g.Lexical := lexical_of_forest (forest_of_compile hg).1
  obtain ⟨_, t₁, patterns, t₂, t₃, h₁, h₂, h₃, hroot, -, hmade⟩ := compile_stages hg
  obtain ⟨hext₁, top, htop, hbound⟩ := Build.entries_fill hlexical _ _ 0 _ _ _ _ h₁ rfl
  obtain ⟨hext₂, hpatterns⟩ := Build.rules_lays hlexical _ _ _ _ _ _ h₂
  obtain ⟨hext₃, hinjections⟩ := Build.injections_lays hlexical _ _ _ _ h₃
  have hpush := extends_push t₂ (.group patterns) t₂.dependencies
  have hhas (t : Tables) : g.Has t t₃ := by
    refine ⟨fun id rule hid => ?_, fun r _ _ => congrArg (·[r]?) hmade.repositories⟩
    rw [rule?, hmade.rules]
    exact hid
  have hafter := hpush.trans hext₃
  have htop₃ : g.repositories[0]? = some ⟨none, top.map fun b => (b.name, b.id)⟩ := by
    have hlt : 0 < t₁.repositories.size := (Array.getElem?_eq_some_iff.1 htop).1
    rw [hmade.repositories, (hext₂.trans hafter).repositories 0 hlt nofun]
    exact htop
  have hscopes : g.Realizes 0 [top] := .outermost htop₃
  refine ⟨top, ?_, ⟨patterns, ?_, ?_⟩, ?_⟩
  · exact hbound ((hhas _).first (hext₂.trans hafter) nofun) _ hscopes
  · rw [hroot]
    exact (hhas t₂).rules _ _ (hext₃.rules _ _ Array.getElem?_push_size)
  · exact hpatterns ((hhas _).first hafter nofun) _ hscopes
  · exact hinjections (hhas _) _ hscopes

/-- A letter, and a group with another one of the same name. -/
def lettersGrammar : Descriptor :=
  { Descriptor.empty with
    scopeName := "source.letters"
    patterns := [
      { RuleSpec.empty with
        patterns := some [{ RuleSpec.empty with reference := some "#letter" },
          { RuleSpec.empty with reference := some "#digit" }]
        repository := some [("letter", { RuleSpec.empty with
          matchPattern := some "a"
          name := some "inner" })] },
      { RuleSpec.empty with reference := some "#letter" }]
    repository := [("letter", { RuleSpec.empty with
      matchPattern := some "a"
      name := some "outer" })] }

/-- The letter inside the group is its own, and outside it is the other one. There are no digits. -/
theorem letters_bound : ∃ g, compile lettersGrammar = .ok g ∧
    g.rule? 4 = some (.group [2, 3]) ∧ g.rule? 2 = some (.inclusion (.entry "letter") 1) ∧
    g.rule? 3 = some (.inclusion (.entry "digit") 1) ∧
    g.rule? 5 = some (.inclusion (.entry "letter") 0) ∧
    g.lookup 1 "letter" = some 1 ∧ (g.rule? 1).bind Rule.name? = some ⟨"inner"⟩ ∧
    g.lookup 1 "digit" = none ∧
    g.lookup 0 "letter" = some 0 ∧ (g.rule? 0).bind Rule.name? = some ⟨"outer"⟩ ∧
    g.Binds lettersGrammar := by
  have hrun : (compile lettersGrammar).toOption.any (fun g =>
      g.rule? 4 == some (.group [2, 3]) && (g.rule? 2 == some (.inclusion (.entry "letter") 1) &&
      (g.rule? 3 == some (.inclusion (.entry "digit") 1) &&
      (g.rule? 5 == some (.inclusion (.entry "letter") 0) &&
      (g.lookup 1 "letter" == some 1 && ((g.rule? 1).bind Rule.name? == some ⟨"inner"⟩ &&
      (g.lookup 1 "digit" == none && (g.lookup 0 "letter" == some 0 &&
      (g.rule? 0).bind Rule.name? == some ⟨"outer"⟩)))))))) = true := by decide +kernel
  obtain ⟨g, hg, hrun⟩ := exists_ok_of_any hrun
  simp only [Bool.and_eq_true, beq_iff_eq] at hrun
  obtain ⟨hgroup, hletter, hdigit, hlast, hinner, hname, hnone, houter, hname'⟩ := hrun
  exact ⟨g, hg, hgroup, hletter, hdigit, hlast, hinner, hname, hnone, houter, hname',
    compile_binds hg⟩

/-- A capture with a letter of its own, beside another one of the same name. -/
def captureGrammar : Descriptor :=
  { Descriptor.empty with
    scopeName := "source.capture"
    patterns := [{ RuleSpec.empty with
      matchPattern := some "(a)"
      captures := some [("1", { RuleSpec.empty with
        patterns := some [{ RuleSpec.empty with reference := some "#letter" }]
        repository := some [("letter", { RuleSpec.empty with
          matchPattern := some "a"
          name := some "inner" })] })] }]
    repository := [("letter", { RuleSpec.empty with
      matchPattern := some "a"
      name := some "outer" })] }

/-- The include in the capture finds the letter outside, though the one inside is nearer, which has not
become a rule at all. -/
theorem capture_repository_unopened : ∃ g, compile captureGrammar = .ok g ∧
    (g.rule? 3).map Rule.captures = some [(1, ⟨none, none, some 2⟩)] ∧
    g.rule? 2 = some (.group [1]) ∧ g.rule? 1 = some (.inclusion (.entry "letter") 0) ∧
    g.lookup 0 "letter" = some 0 ∧ (g.rule? 0).bind Rule.name? = some ⟨"outer"⟩ ∧
    ∀ rule ∈ g.rules.toList, rule.name? ≠ some ⟨"inner"⟩ := by
  have hrun : (compile captureGrammar).toOption.any (fun g =>
      (g.rule? 3).map Rule.captures == some [(1, ⟨none, none, some 2⟩)] &&
      (g.rule? 2 == some (.group [1]) && (g.rule? 1 == some (.inclusion (.entry "letter") 0) &&
      (g.lookup 0 "letter" == some 0 && ((g.rule? 0).bind Rule.name? == some ⟨"outer"⟩ &&
      g.rules.toList.all fun rule => rule.name? != some ⟨"inner"⟩))))) = true := by decide +kernel
  obtain ⟨g, hg, hrun⟩ := exists_ok_of_any hrun
  simp only [Bool.and_eq_true, beq_iff_eq, List.all_eq_true, bne_iff_ne] at hrun
  exact ⟨g, hg, hrun⟩

end Grammar

end Scopelight
