import Scopelight.Proofs.Expansion

/-!
# Alike registries

Two registries are alike if the grammars of one stand somewhere in the other, their captures apart,
and whatever the rules of one include stands there too (`Registry.Alike`). Expansion looks at
nothing else, so it gives the same rules in both (`Alike.expandNested`, `Alike.expandRule`).
-/

namespace Scopelight

/-! ## Without captures -/

/-- The rule with its captures changed. -/
def Rule.mapCaptures (h : CaptureRules → CaptureRules) : Rule → Rule
  | inclusion target repository => inclusion target repository
  | single r => single { r with captures := h r.captures }
  | region r => region { r with
      openingCaptures := h r.openingCaptures
      closingCaptures := h r.closingCaptures }
  | whileRegion r => whileRegion { r with
      openingCaptures := h r.openingCaptures
      conditionCaptures := h r.conditionCaptures }
  | group patterns => group patterns

/-- The rule without its captures. -/
def Rule.bare (r : Rule) : Rule := r.mapCaptures fun _ => []

/-- The grammar with the captures of its rules changed. -/
def Grammar.mapCaptures (h : CaptureRules → CaptureRules) (g : Grammar) : Grammar :=
  { g with rules := g.rules.map (Rule.mapCaptures h) }

/-- The grammar without the captures of its rules. -/
def Grammar.bare (g : Grammar) : Grammar := g.mapCaptures fun _ => []

namespace Rule

variable (h : CaptureRules → CaptureRules)

@[simp]
theorem name_mapCaptures (r : Rule) : (r.mapCaptures h).name? = r.name? := by cases r <;> rfl

@[simp]
theorem contentName_mapCaptures (r : Rule) : (r.mapCaptures h).contentName? = r.contentName? := by
  cases r <;> rfl

theorem mapCaptures_id (r : Rule) : r.mapCaptures id = r := by cases r <;> rfl

@[simp]
theorem bare_mapCaptures (r : Rule) : (r.mapCaptures h).bare = r.bare := by cases r <;> rfl

@[simp]
theorem bare_bare (r : Rule) : r.bare.bare = r.bare := r.bare_mapCaptures _

@[simp]
theorem scanPattern_bare (r : Rule) : r.bare.scanPattern? = r.scanPattern? := by cases r <;> rfl

@[simp]
theorem nested_bare (r : Rule) : r.bare.nested = r.nested := by cases r <;> rfl

@[simp]
theorem closingLast_bare (r : Rule) : r.bare.closingLast = r.closingLast := by cases r <;> rfl

/-- Regions of the rule are closed by a match. -/
def endsByMatch : Rule → Bool
  | region _ => true
  | _ => false

@[simp]
theorem endsByMatch_bare (r : Rule) : r.bare.endsByMatch = r.endsByMatch := by cases r <;> rfl

theorem eq_inclusion_of_bare {r : Rule} {t : IncludeTarget} {repository : RepositoryId}
    (h : r.bare = inclusion t repository) : r = inclusion t repository := by
  cases r <;> cases h
  rfl

theorem eq_group_of_bare {r : Rule} {ids : List RuleId} (h : r.bare = group ids) :
    r = group ids := by
  cases r <;> cases h
  rfl

end Rule

namespace Grammar

theorem mapCaptures_id (g : Grammar) : g.mapCaptures id = g := by
  have hrule : Rule.mapCaptures id = id := funext Rule.mapCaptures_id
  unfold mapCaptures
  rw [hrule, Array.map_id]

@[simp]
theorem bare_mapCaptures (h : CaptureRules → CaptureRules) (g : Grammar) :
    (g.mapCaptures h).bare = g.bare := by
  unfold bare mapCaptures
  rw [Array.map_map]
  congr 2
  funext r
  exact r.bare_mapCaptures h

theorem rule_mapCaptures (h : CaptureRules → CaptureRules) (g : Grammar) (id : RuleId) :
    (g.mapCaptures h).rule? id = (g.rule? id).map (Rule.mapCaptures h) := by
  simp [mapCaptures, rule?]

@[simp]
theorem rule_bare (g : Grammar) (id : RuleId) : g.bare.rule? id = (g.rule? id).map Rule.bare :=
  g.rule_mapCaptures _ id

@[simp]
theorem lookup_bare (g : Grammar) (repository : RepositoryId) (name : String) :
    g.bare.lookup repository name = g.lookup repository name := by
  have hfrom : ∀ fuel id, g.bare.lookupFrom name fuel id = g.lookupFrom name fuel id := by
    intro fuel
    induction fuel with
    | zero => exact fun _ => rfl
    | succ fuel ih =>
      intro id
      rcases id with _ | id
      · rfl
      · simp only [lookupFrom, ih]
        rfl
  exact hfrom _ _

end Grammar

/-! ## Other places -/

/-- The rule of the grammar at another place. -/
def RuleRef.move (f : Nat → Nat) (ref : RuleRef) : RuleRef := ⟨f ref.grammar, ref.rule⟩

@[simp] theorem RuleRef.move_grammar (f : Nat → Nat) (ref : RuleRef) :
    (ref.move f).grammar = f ref.grammar := rfl

def Expansion.move (f : Nat → Nat) (e : Expansion) : Expansion :=
  ⟨e.visited.map (RuleRef.move f), e.found.map (RuleRef.move f)⟩

theorem RuleRef.move_injective {f : Nat → Nat} (hf : Function.Injective f) :
    Function.Injective (move f) := by
  intro a b h
  obtain ⟨g, r⟩ := a
  obtain ⟨g', r'⟩ := b
  simp only [move, mk.injEq] at h ⊢
  exact ⟨hf h.1, h.2⟩

namespace Registry

/-- Except for captures, the grammar at a place of one registry is the one at its new place in the
other, and where one has none the other has none. -/
def AlikeAt (f : Nat → Nat) (r r' : Registry) (id : Nat) : Prop :=
  (r'.grammar? (f id)).map Grammar.bare = (r.grammar? id).map Grammar.bare

/-- A rule of the registry includes something of this scope. -/
def Includes (r : Registry) (scope : String) : Prop :=
  ∃ ref target repository, r.rule? ref = some (.inclusion target repository) ∧
    target.foreignScope? = some scope

/-- All grammars of the first registry stand in the second one at new places, and what their rules
include is the same. -/
structure Alike (f : Nat → Nat) (r r' : Registry) : Prop where
  injective : Function.Injective f
  grammar : ∀ id < r.grammars.size, r.AlikeAt f r' id
  idOf : ∀ scope, r.Includes scope → r'.idOf? scope = (r.idOf? scope).map f

section Alike

variable {f : Nat → Nat} {r r' : Registry} {base : Nat} {ref : RuleRef} {rule : Rule}

/-- What does not tell two values apart that a map sends to the same one. -/
theorem bind_eq_of_map_eq {α β : Type} {b : α → α} {x y : Option α} (h : x.map b = y.map b)
    {k : α → Option β} (hk : ∀ a, k (b a) = k a) : x.bind k = y.bind k := by
  have hb : ∀ x : Option α, x.bind k = (x.map b).bind k := by
    intro x
    cases x <;> simp [hk]
  rw [hb x, h, ← hb y]

theorem map_eq_of_map_eq {α β : Type} {b : α → α} {x y : Option α} (h : x.map b = y.map b)
    {k : α → β} (hk : ∀ a, k (b a) = k a) : x.map k = y.map k := by
  rw [Option.map_eq_bind, Option.map_eq_bind]
  exact bind_eq_of_map_eq h fun a => congrArg some (hk a)

theorem AlikeAt.map_bare (h : r.AlikeAt f r' ref.grammar) :
    (r'.rule? (ref.move f)).map Rule.bare = (r.rule? ref).map Rule.bare := by
  unfold rule?
  rw [Option.map_bind, Option.map_bind]
  exact bind_eq_of_map_eq h fun g => by simp [Function.comp_def]

theorem AlikeAt.rule_of_none (h : r.AlikeAt f r' ref.grammar) (hr : r.rule? ref = none) :
    r'.rule? (ref.move f) = none := by
  have := h.map_bare
  rwa [hr, Option.map_none, Option.map_eq_none_iff] at this

theorem AlikeAt.rule_of_some (h : r.AlikeAt f r' ref.grammar) (hr : r.rule? ref = some rule) :
    ∃ rule', r'.rule? (ref.move f) = some rule' ∧ rule'.bare = rule.bare := by
  have := h.map_bare
  rwa [hr, Option.map_some, Option.map_eq_some_iff] at this

theorem AlikeAt.rootRef {id : Nat} (h : r.AlikeAt f r' id) :
    r'.rootRef? (f id) = (r.rootRef? id).map (RuleRef.move f) := by
  unfold rootRef?
  rw [Option.map_map]
  exact map_eq_of_map_eq h fun g => rfl

/-- An entry of a grammar, found without looking at rules, is the same. -/
theorem AlikeAt.grammar_bind {id : Nat} (h : r.AlikeAt f r' id) {find : Grammar → Option RuleId}
    (hfind : ∀ g, find g.bare = find g) :
    ((r'.grammar? (f id)).bind fun g => (find g).bind fun rule => some (⟨f id, rule⟩ : RuleRef)) =
      ((r.grammar? id).bind fun g => (find g).bind fun rule => some ⟨id, rule⟩).map
        (RuleRef.move f) := by
  calc ((r'.grammar? (f id)).bind fun g => (find g).bind fun rule => some (⟨f id, rule⟩ : RuleRef))
      = (r.grammar? id).bind fun g => (find g).bind fun rule => some ⟨f id, rule⟩ :=
        bind_eq_of_map_eq h fun g => by rw [hfind]
    _ = _ := by
      rcases r.grammar? id with _ | g
      · rfl
      · change (find g).bind _ = ((find g).bind _).map _
        cases find g <;> rfl

theorem Alike.alikeAt_of_idOf (h : r.Alike f r') {scope : String} {id : Nat}
    (hid : r.idOf? scope = some id) : r.AlikeAt f r' id :=
  h.grammar id (lt_of_idOf hid)

theorem Alike.target (h : r.Alike f r') {owner : Nat} (hbase : r.AlikeAt f r' base)
    (howner : r.AlikeAt f r' owner) {t : IncludeTarget}
    (ht : ∀ scope, t.foreignScope? = some scope → r.Includes scope) (repository : RepositoryId) :
    r'.target? (f base) (f owner) t repository =
      (r.target? base owner t repository).map (RuleRef.move f) := by
  cases t with
  | entry name => exact howner.grammar_bind fun g => g.lookup_bare repository name
  | self => exact howner.rootRef
  | base => exact hbase.rootRef
  | grammar scope =>
    have hid := h.idOf scope (ht scope rfl)
    change (r'.idOf? scope).bind r'.rootRef? = ((r.idOf? scope).bind r.rootRef?).map _
    rcases hr : r.idOf? scope with _ | id
    · rw [hid, hr]
      rfl
    · rw [hid, hr]
      exact (h.alikeAt_of_idOf hr).rootRef
  | grammarEntry scope name =>
    have hid := h.idOf scope (ht scope rfl)
    change (r'.idOf? scope).bind _ = ((r.idOf? scope).bind _).map _
    rcases hr : r.idOf? scope with _ | id
    · rw [hid, hr]
      rfl
    · rw [hid, hr]
      exact (h.alikeAt_of_idOf hr).grammar_bind fun g => rfl

end Alike

/-! ## Expansion -/

section Alike

variable {f : Nat → Nat} {r r' : Registry} {base : Nat} {ref : RuleRef} {rule : Rule}

theorem mem_map_move (h : Function.Injective f) {refs : List RuleRef} :
    ref.move f ∈ refs.map (RuleRef.move f) ↔ ref ∈ refs :=
  List.mem_map_of_injective (RuleRef.move_injective h)

theorem AlikeAt.splices (href : r.AlikeAt f r' ref.grammar) :
    r'.splices (ref.move f) = r.splices ref := by
  rcases hr : r.rule? ref with _ | rule
  · simp only [Registry.splices, hr, href.rule_of_none hr]
  · obtain ⟨rule', hr', hbare⟩ := href.rule_of_some hr
    simp only [Registry.splices, hr, hr', Option.any_some]
    rw [← rule'.scanPattern_bare, hbare, rule.scanPattern_bare]

/-- Expansion finds the same rules at their new places. -/
theorem Alike.expand (h : r.Alike f r') (hbase : r.AlikeAt f r' base) (room : Nat) (e : Expansion)
    (href : r.AlikeAt f r' ref.grammar) :
    r'.expand (f base) room (e.move f) (ref.move f) = (r.expand base room e ref).move f := by
  induction room generalizing e ref with
  | zero => rfl
  | succ room ih =>
    rcases hr : r.rule? ref with _ | rule
    · rw [expand_of_none hr, expand_of_none (href.rule_of_none hr)]
    obtain ⟨rule', hr', hbare⟩ := href.rule_of_some hr
    rcases hp : rule.scanPattern? with _ | p
    · cases rule with
      | inclusion t repository =>
        obtain rfl := Rule.eq_inclusion_of_bare hbare
        have ht := h.target hbase href (t := t) (fun scope hs => ⟨ref, t, repository, hr, hs⟩)
          repository
        rw [expand_inclusion hr, expand_inclusion hr', RuleRef.move_grammar, ht]
        rcases htarget : r.target? base ref.grammar t repository with _ | target
        · rfl
        · have halike := h.grammar _ (target_lt htarget)
          simp only [Option.map_some, halike.splices, Expansion.move, mem_map_move h.injective]
          split_ifs
          · exact rfl
          · exact ih { e with visited := target :: e.visited } halike
          · exact ih e halike
      | group ids =>
        obtain rfl := Rule.eq_group_of_bare hbare
        rw [expand_group hr, expand_group hr']
        refine List.foldl_hom (Expansion.move f) fun e id => ?_
        have hid : r.AlikeAt f r' (RuleRef.mk ref.grammar id).grammar := href
        exact ih e hid
      | _ => cases hp
    · have hp' : rule'.scanPattern? = some p := by
        rw [← rule'.scanPattern_bare, hbare, rule.scanPattern_bare, hp]
      rw [expand_of_scanPattern hr hp, expand_of_scanPattern hr' hp']
      simp only [Expansion.move, mem_map_move h.injective]
      split_ifs <;> rfl

theorem found_move (e : Expansion) :
    (e.move f).found.reverse = e.found.reverse.map (RuleRef.move f) := by
  rw [List.map_reverse]
  rfl

theorem Alike.expandNested (h : r.Alike f r') (hbase : r.AlikeAt f r' base) (limit : Nat)
    {owner : RuleRef} (howner : r.AlikeAt f r' owner.grammar) :
    r'.expandNested (f base) limit (owner.move f) =
      (r.expandNested base limit owner).map (RuleRef.move f) := by
  rcases hr : r.rule? owner with _ | rule
  · simp only [Registry.expandNested, hr, howner.rule_of_none hr, List.map_nil]
  · obtain ⟨rule', hr', hbare⟩ := howner.rule_of_some hr
    have hnested : rule'.nested = rule.nested := by
      rw [← rule'.nested_bare, hbare, rule.nested_bare]
    simp only [Registry.expandNested, hr, hr', hnested]
    rw [← found_move]
    congr 2
    change rule.nested.foldl _ (Expansion.start.move f) = _
    refine List.foldl_hom (Expansion.move f) fun e id => ?_
    have hid : r.AlikeAt f r' (RuleRef.mk owner.grammar id).grammar := howner
    exact h.expand hbase (limit + 1) e hid

theorem Alike.expandRule (h : r.Alike f r') (hbase : r.AlikeAt f r' base) (limit : Nat)
    (href : r.AlikeAt f r' ref.grammar) :
    r'.expandRule (f base) limit (ref.move f) =
      (r.expandRule base limit ref).map (RuleRef.move f) := by
  unfold Registry.expandRule
  rw [← found_move]
  congr 2
  exact h.expand hbase (limit + 1) .start href

end Alike

end Registry

end Scopelight
