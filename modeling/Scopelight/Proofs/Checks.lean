import Scopelight.Proofs.Compile
import Scopelight.Proofs.Outcome

/-!
# What a grammar is checked for

`Descriptor.checks` lists what a descriptor is checked for, in the order in which it is read and
without the tables that compiling builds. A build `Meets` such a list if it fails exactly with the
error of the first check in it that fails. So a descriptor is refused for the first check that it
does not pass (`compile_error_iff`), and compiled if there is none.
-/

namespace Scopelight

open Text

/-- What a descriptor is checked for at a place. -/
inductive Check where
  /-- The grammar has a scope. -/
  | scopeName
  | pattern (path source : String)
  | template (path source : String)
  /-- The structure is wrong, whatever the fields hold. -/
  | flaw (path : String) (kind : Flaw)
  /-- The key of a capture is a group number. -/
  | number (path key : String)
  /-- There is a table for the captures up to the one of the key. -/
  | room (key : String)

namespace Check

/-- An error of the structure at a place. -/
def malformed (scope path : String) (flaw : Flaw) : GrammarError :=
  .malformed scope (if path.isEmpty then "<root>" else path) flaw

/-- The error if the check fails. -/
def error? (scope : String) : Check → Option GrammarError
  | scopeName => if scope.isEmpty then some (malformed "" "scopeName" .missingScopeName) else none
  | pattern path source =>
    match Pattern.compile source with
    | .ok _ => none
    | .error e => some (.invalidPattern scope path e)
  | template path source =>
    match EndTemplate.compile source with
    | .ok _ => none
    | .error e => some (.invalidPattern scope path e)
  | flaw path kind => some (malformed scope path kind)
  | number path key =>
    match captureNumber? key with
    | some _ => none
    | none => some (malformed scope path (.captureKey key))
  | room key =>
    match captureNumber? key with
    | some n => if fitsCaptures (n + 1) then none else some (.overflow key)
    | none => none

/-- The error of the first check that fails. -/
def first? (scope : String) (checks : List Check) : Option GrammarError :=
  checks.findSome? (error? scope)

theorem first?_append (scope : String) (checks more : List Check) :
    first? scope (checks ++ more) = (first? scope checks).or (first? scope more) :=
  List.findSome?_append

theorem first?_of_failed {scope : String} {check : Check} {e : GrammarError}
    (h : check.error? scope = some e) (more : List Check) :
    first? scope (check :: more) = some e :=
  (List.findSome?_cons_of_isSome (by rw [h]; rfl)).trans h

theorem first?_of_passed {scope : String} {check : Check} (h : check.error? scope = none)
    (more : List Check) : first? scope (check :: more) = first? scope more :=
  List.findSome?_cons_of_isNone (by rw [h]; rfl)

/-- The checks of a region, given those inside it. -/
def region (path source : String) (openingCaptures nested : List Check)
    (endPattern whilePattern : Option String) (closingCaptures conditionCaptures : List Check) :
    List Check :=
  pattern (childPath path "begin") source :: (openingCaptures ++ (nested ++
    match endPattern, whilePattern with
    | some source, none => template (childPath path "end") source :: closingCaptures
    | none, some source => template (childPath path "while") source :: conditionCaptures
    | some _, some _ => [flaw path .endAndWhile]
    | none, none => [flaw path .beginAlone]))

/-- The checks of a capture: its key first, then its patterns, and the table last. -/
def capture (path key : String) (patterns : List Check) : List Check :=
  number path key :: (patterns ++ [room key])

mutual

/-- The checks of a rule at a place of the descriptor. -/
def rule (path : String) : RuleSpec → List Check
  | ⟨reference, _, _, matchPattern, captures, beginPattern, beginCaptures, endPattern, endCaptures,
      whilePattern, whileCaptures, patterns, ownRepository, _⟩ =>
    let nested := optionalRules path patterns
    let shared (path : String) := captureMap path [] captures
    inner (childPath path "repository") ownRepository ++
      match reference, matchPattern, beginPattern with
      | some _, _, _ => []
      | none, some _, some _ => [flaw path .matchAndBegin]
      | none, some source, none =>
        pattern (childPath path "match") source :: shared (childPath path "captures")
      | none, none, some source =>
        let opening := childPath path "beginCaptures"
        let closing := childPath path "endCaptures"
        let condition := childPath path "whileCaptures"
        region path source (captureMap opening (shared opening) beginCaptures) nested
          endPattern whilePattern (captureMap closing (shared closing) endCaptures)
          (captureMap condition (shared condition) whileCaptures)
      | none, none, none =>
        if endPattern.isSome || whilePattern.isSome then [flaw path .endWithoutBegin] else nested

/-- The checks of the entries that a rule itself has. -/
def inner (path : String) : Option (List (String × RuleSpec)) → List Check
  | none => []
  | some es => entries path es

/-- The checks of a list of rules, the first of which has number `i`. -/
def rules (path : String) : Nat → List RuleSpec → List Check
  | _, [] => []
  | i, spec :: specs => rule (itemPath path i) spec ++ rules path (i + 1) specs

def optionalRules (path : String) : Option (List RuleSpec) → List Check
  | none => []
  | some specs => rules path 0 specs

def entries (path : String) : List (String × RuleSpec) → List Check
  | [] => []
  | (name, spec) :: rest => rule (childPath path name) spec ++ entries path rest

/-- The checks of a map of captures; without one `otherwise` stands for it. -/
def captureMap (path : String) (otherwise : List Check) :
    Option (List (String × RuleSpec)) → List Check
  | none => otherwise
  | some ms => captureRules path ms

def captureRules (path : String) : List (String × RuleSpec) → List Check
  | [] => []
  | (key, ⟨_, _, _, _, _, _, _, _, _, _, _, patterns, _, _⟩) :: rest =>
    capture path key (optionalRules (childPath path key) patterns) ++ captureRules path rest

end

def injections : List (String × RuleSpec) → List Check
  | [] => []
  | (selector, spec) :: rest => rule (childPath "injections" selector) spec ++ injections rest

def firstLine : Option String → List Check
  | none => []
  | some source => [pattern "firstLineMatch" source]

end Check

/-- What a descriptor is checked for, in the order in which it is read. Fields that a rule of its kind
does not read are not checked. -/
def Descriptor.checks (d : Descriptor) : List Check :=
  .scopeName :: (Check.entries "repository" d.repository ++ (Check.rules "" 0 d.patterns ++
    (Check.injections d.injections ++ Check.firstLine d.firstLineMatch)))

/-- The answer fails with this error, and is good if there is none. -/
def FailsWith {α : Type} (first : Option GrammarError) : Except GrammarError α → Prop
  | .ok _ => first = none
  | .error e => first = some e

theorem failsWith_ok {α : Type} {first : Option GrammarError} {a : α} :
    FailsWith first (.ok a) ↔ first = none := Iff.rfl

theorem failsWith_error {α : Type} {first : Option GrammarError} {e : GrammarError} :
    FailsWith first (.error e : Except GrammarError α) ↔ first = some e := Iff.rfl

namespace Build

/-- Whatever the tables are before, the build fails with the error of the first check that fails, and
does not fail if none does. -/
def Meets {α : Type} (scope : String) (checks : List Check) (m : Build α) : Prop :=
  ∀ t, FailsWith (Check.first? scope checks) (m.run t)

section Parts

variable {α β : Type} {scope path : String} {checks more : List Check} {check : Check} {m : Build α}

theorem meets_of_ok (h : ∀ t, ∃ x, m.run t = .ok x) : Meets scope [] m := by
  intro t
  obtain ⟨x, hx⟩ := h t
  rw [hx]
  rfl

theorem meets_pure (a : α) : Meets scope [] (pure a : Build α) :=
  meets_of_ok fun t => ⟨(a, t), rfl⟩

theorem meets_failed {e : GrammarError} (h : check.error? scope = some e) (more : List Check) :
    Meets scope (check :: more) (throw e : Build α) := by
  intro t
  rw [Check.first?_of_failed h]
  rfl

theorem Meets.passed (h : check.error? scope = none) (hm : Meets scope checks m) :
    Meets scope (check :: checks) m := by
  intro t
  rw [Check.first?_of_passed h]
  exact hm t

theorem malformed_meets (kind : Flaw) :
    Meets scope [.flaw path kind] (malformed scope path kind : Build α) :=
  meets_failed (by rw [Check.error?, Check.malformed]) []

theorem Meets.bind (hm : Meets scope checks m) {f : α → Build β}
    (hf : ∀ a, Meets scope more (f a)) : Meets scope (checks ++ more) (m >>= f) := by
  intro t
  have hfirst := hm t
  rw [StateT.run_bind, Check.first?_append]
  rcases hr : m.run t with e | ⟨a, t₁⟩
  · rw [hr, failsWith_error] at hfirst
    rw [hfirst]
    rfl
  · rw [hr, failsWith_ok] at hfirst
    rw [hfirst, Option.none_or]
    exact hf a t₁

theorem Meets.cons (hm : Meets scope [check] m) {f : α → Build β}
    (hf : ∀ a, Meets scope more (f a)) : Meets scope (check :: more) (m >>= f) :=
  hm.bind hf

/-- The first part checks nothing. -/
theorem Meets.after (hm : Meets scope [] m) {f : α → Build β}
    (hf : ∀ a, Meets scope checks (f a)) : Meets scope checks (m >>= f) :=
  hm.bind hf

/-- The second part checks nothing. -/
theorem Meets.then (hm : Meets scope checks m) {f : α → Build β}
    (hf : ∀ a, Meets scope [] (f a)) : Meets scope checks (m >>= f) := by
  have h := hm.bind hf
  rwa [List.append_nil] at h

theorem Meets.map (hm : Meets scope checks m) (f : α → β) : Meets scope checks (f <$> m) := by
  rw [map_eq_pure_bind]
  exact hm.then fun a => meets_pure (f a)

theorem addRule_meets (r : Rule) : Meets scope [] (addRule r) := meets_of_ok fun _ => ⟨_, rfl⟩

theorem addRepository_meets (parent : Option RepositoryId) :
    Meets scope [] (addRepository parent) :=
  meets_of_ok fun _ => ⟨_, rfl⟩

theorem addEntry_meets (repository : RepositoryId) (name : String) (id : RuleId) :
    Meets scope [] (addEntry repository name id) :=
  meets_of_ok fun _ => ⟨_, rfl⟩

theorem addDependency_meets (own : String) (target : IncludeTarget) :
    Meets scope [] (addDependency own target) := by
  unfold addDependency
  split
  · split
    · exact meets_pure ()
    · exact meets_of_ok fun _ => ⟨_, rfl⟩
  · exact meets_pure ()

theorem inclusion_meets (repository : RepositoryId) (reference : String) :
    Meets scope [] (inclusion scope repository reference) :=
  (addDependency_meets _ _).after fun _ => addRule_meets _

theorem pattern_meets (source : String) :
    Meets scope [.pattern path source] (pattern scope path source) := by
  unfold pattern
  rcases h : Pattern.compile source with e | p
  · exact meets_failed (by rw [Check.error?, h]) []
  · exact (meets_pure p).passed (by rw [Check.error?, h])

theorem template_meets (source : String) :
    Meets scope [.template path source] (template scope path source) := by
  unfold template
  rcases h : EndTemplate.compile source with e | t
  · exact meets_failed (by rw [Check.error?, h]) []
  · exact (meets_pure t).passed (by rw [Check.error?, h])

theorem firstLine_meets (source : Option String) :
    Meets scope (Check.firstLine source) (firstLine scope source) := by
  cases source with
  | none => exact meets_pure none
  | some source => exact (pattern_meets source).map some

theorem group_meets {nested : Build (List RuleId)} (hn : Meets scope checks nested) :
    Meets scope checks (group nested) :=
  hn.then fun _ => addRule_meets _

theorem single_meets (name : Option ScopeName) (source : String) {captures : Build CaptureRules}
    (hc : Meets scope checks captures) :
    Meets scope (.pattern (childPath path "match") source :: checks)
      (single scope path name source captures) :=
  (pattern_meets source).cons fun _ => hc.then fun _ => addRule_meets _

theorem region_meets (name contentName : Option ScopeName) (source : String)
    {openingCaptures closingCaptures conditionCaptures : Build CaptureRules}
    {nested : Build (List RuleId)} {ofOpening ofNested ofClosing ofCondition : List Check}
    (ho : Meets scope ofOpening openingCaptures) (hn : Meets scope ofNested nested)
    (endPattern whilePattern : Option String) (hc : Meets scope ofClosing closingCaptures)
    (hw : Meets scope ofCondition conditionCaptures) (closingLast : Bool) :
    Meets scope
      (Check.region path source ofOpening ofNested endPattern whilePattern ofClosing ofCondition)
      (region scope path name contentName source openingCaptures nested endPattern whilePattern
        closingCaptures conditionCaptures closingLast) := by
  unfold Check.region region
  refine (pattern_meets source).cons fun _ => ho.bind fun _ => hn.bind fun _ => ?_
  split
  · exact (template_meets _).cons fun _ => hc.then fun _ => addRule_meets _
  · exact (template_meets _).cons fun _ => hw.then fun _ => addRule_meets _
  · exact malformed_meets _
  · exact malformed_meets _

theorem capture_meets (key : String) (name contentName : Option ScopeName)
    {patterns : Build (Option RuleId)} (hp : Meets scope checks patterns) (done : CaptureRules) :
    Meets scope (Check.capture path key checks)
      (capture scope path key name contentName patterns done) := by
  unfold Check.capture capture
  rcases hn : captureNumber? key with _ | n
  · exact meets_failed (by rw [Check.error?, hn, Check.malformed]) _
  · refine (hp.bind fun patterns => ?_).passed (by rw [Check.error?, hn])
    split
    · rename_i hroom
      exact (meets_pure _).passed (by rw [Check.error?, hn]; exact if_pos hroom)
    · rename_i hroom
      exact meets_failed (by rw [Check.error?, hn]; exact if_neg hroom) []

end Parts

section Rules

variable {scope : String}

mutual

theorem rule_meets (repository : RepositoryId) (path : String) : ∀ (spec : RuleSpec),
    Meets scope (Check.rule path spec) (rule scope repository path spec)
  | ⟨reference, name, contentName, matchPattern, captures, beginPattern, beginCaptures, endPattern,
      endCaptures, whilePattern, whileCaptures, patterns, ownRepository, applyEndLast⟩ => by
    rw [Check.rule.eq_def, Build.rule]
    refine (inner_meets repository _ ownRepository).bind fun repository => ?_
    have hnested := optionalRules_meets repository path patterns
    -- Captures for all patterns, at the path where they are asked for.
    have hshared (path : String) := captureMap_meets repository path (meets_pure []) captures
    split
    · exact inclusion_meets _ _
    · exact malformed_meets _
    · exact single_meets _ _ (hshared _)
    · exact region_meets _ _ _ (captureMap_meets repository _ (hshared _) beginCaptures) hnested
        endPattern whilePattern (captureMap_meets repository _ (hshared _) endCaptures)
        (captureMap_meets repository _ (hshared _) whileCaptures) applyEndLast
    · split
      · exact malformed_meets _
      · exact group_meets hnested

theorem inner_meets (repository : RepositoryId) (path : String) :
    ∀ (es : Option (List (String × RuleSpec))),
    Meets scope (Check.inner path es) (inner scope repository path es)
  | none => by
    rw [Check.inner, Build.inner]
    exact meets_pure _
  | some [] => by
    rw [Check.inner, Check.entries, Build.inner]
    exact meets_pure _
  | some (e :: es) => by
    rw [Check.inner, Build.inner]
    refine (addRepository_meets _).after fun id => ?_
    exact (entries_meets id path (e :: es)).then fun _ => meets_pure _

theorem rules_meets (repository : RepositoryId) (path : String) : ∀ (i : Nat)
    (specs : List RuleSpec),
    Meets scope (Check.rules path i specs) (rules scope repository path i specs)
  | i, [] => by
    rw [Check.rules, Build.rules]
    exact meets_pure _
  | i, spec :: specs => by
    rw [Check.rules, Build.rules]
    refine (rule_meets repository _ spec).bind fun id => ?_
    exact (rules_meets repository path (i + 1) specs).then fun _ => meets_pure _

theorem optionalRules_meets (repository : RepositoryId) (path : String) :
    ∀ (specs : Option (List RuleSpec)),
    Meets scope (Check.optionalRules path specs) (optionalRules scope repository path specs)
  | none => by
    rw [Check.optionalRules, Build.optionalRules]
    exact meets_pure _
  | some specs => by
    rw [Check.optionalRules, Build.optionalRules]
    exact rules_meets repository path 0 specs

theorem entries_meets (repository : RepositoryId) (path : String) :
    ∀ (es : List (String × RuleSpec)),
    Meets scope (Check.entries path es) (entries scope repository path es)
  | [] => by
    rw [Check.entries, Build.entries]
    exact meets_pure _
  | (name, spec) :: rest => by
    rw [Check.entries, Build.entries]
    refine (rule_meets repository _ spec).bind fun id => ?_
    exact (addEntry_meets _ _ _).after fun _ => entries_meets repository path rest

theorem captureMap_meets (repository : RepositoryId) (path : String)
    {otherwise : Build CaptureRules} {checks : List Check} (ho : Meets scope checks otherwise) :
    ∀ (ms : Option (List (String × RuleSpec))),
    Meets scope (Check.captureMap path checks ms) (captureMap scope repository path otherwise ms)
  | none => by
    rw [Check.captureMap, Build.captureMap]
    exact ho
  | some ms => by
    rw [Check.captureMap, Build.captureMap]
    exact captureRules_meets repository path [] ms

theorem captureRules_meets (repository : RepositoryId) (path : String) : ∀ (done : CaptureRules)
    (ms : List (String × RuleSpec)),
    Meets scope (Check.captureRules path ms) (captureRules scope repository path done ms)
  | done, [] => by
    rw [Check.captureRules, Build.captureRules]
    exact meets_pure _
  | done, (key, ⟨reference, name, contentName, matchPattern, captures, beginPattern, beginCaptures,
      endPattern, endCaptures, whilePattern, whileCaptures, patterns, ownRepository,
      applyEndLast⟩) :: rest => by
    rw [Check.captureRules, Build.captureRules]
    refine (capture_meets key _ _ (capturePatterns_meets repository _ patterns) done).bind
      fun done => ?_
    exact captureRules_meets repository path done rest

theorem capturePatterns_meets (repository : RepositoryId) (path : String) :
    ∀ (specs : Option (List RuleSpec)),
    Meets scope (Check.optionalRules path specs) (capturePatterns scope repository path specs)
  | none => by
    rw [Check.optionalRules, Build.capturePatterns]
    exact meets_pure _
  | some [] => by
    rw [Check.optionalRules, Check.rules, Build.capturePatterns]
    exact meets_pure _
  | some (spec :: specs) => by
    rw [Check.optionalRules, Build.capturePatterns]
    exact (group_meets (rules_meets repository path 0 (spec :: specs))).map _

end

theorem injections_meets (repository : RepositoryId) : ∀ (es : List (String × RuleSpec)),
    Meets scope (Check.injections es) (injections scope repository es)
  | [] => meets_pure _
  | (_, spec) :: rest =>
    (rule_meets repository _ spec).bind fun _ => (injections_meets repository rest).then fun _ =>
      meets_pure _

/-- The checks of everything but the scope. -/
theorem grammar_meets (scope : String) (d : Descriptor) : Meets scope
    (Check.entries "repository" d.repository ++ (Check.rules "" 0 d.patterns ++
      (Check.injections d.injections ++ Check.firstLine d.firstLineMatch)))
    (grammar scope d) := by
  unfold grammar
  refine (addRepository_meets _).after fun repository => ?_
  refine (entries_meets repository _ d.repository).bind fun _ => ?_
  refine (rules_meets repository "" 0 d.patterns).bind fun patterns => ?_
  refine (addRule_meets _).after fun root => ?_
  refine (injections_meets repository d.injections).bind fun injections => ?_
  refine (firstLine_meets d.firstLineMatch).then fun firstLine => ?_
  exact meets_of_ok fun _ => ⟨_, rfl⟩

end Rules

end Build

namespace Grammar

variable {d : Descriptor}

theorem compile_failsWith (d : Descriptor) :
    FailsWith (Check.first? d.scope d.checks) (compile d) := by
  unfold compile Descriptor.checks
  change FailsWith _ (if d.scope.isEmpty then _ else (Build.grammar d.scope d).run' .empty)
  split
  · rename_i hscope
    rw [Check.first?_of_failed (by rw [Check.error?, if_pos hscope])]
    rfl
  · rename_i hscope
    have h := Build.grammar_meets d.scope d .empty
    rw [Check.first?_of_passed (by rw [Check.error?, if_neg hscope])]
    change FailsWith _ (Prod.fst <$> (Build.grammar d.scope d).run .empty)
    rcases hr : (Build.grammar d.scope d).run .empty with e | ⟨g, t⟩
    · rwa [hr] at h
    · rwa [hr] at h

/-- A descriptor is refused for the first check that it does not pass. -/
theorem compile_error_iff {e : GrammarError} :
    compile d = .error e ↔ Check.first? d.scope d.checks = some e := by
  have h := compile_failsWith d
  rcases hc : compile d with e' | g
  · rw [hc, failsWith_error] at h
    rw [h, Except.error.injEq, Option.some.injEq]
  · rw [hc, failsWith_ok] at h
    rw [h]
    exact ⟨fun h => (by cases h), fun h => (by cases h)⟩

end Grammar

end Scopelight
