import Scopelight.Proofs.Checks
import Scopelight.Proofs.Places

/-!
# Where a refused pattern stands

A grammar is not compiled if one of its patterns is refused, and the error says which one and where.
It is the error of a check of the descriptor, and whatever is checked to be a pattern stands where
the check says (`Descriptor.checks_stand`). So the path of the error is what the place of the pattern
is called (`refused_pattern_called`), and the place itself where each pattern of a region has its own
captures.
-/

namespace Scopelight

open Json

/-! ## Refused patterns -/

theorem Pattern.pattern_of_readAs {source text : String} {e : PatternError}
    (h : Pattern.readAs source text = .error e) : e.pattern = source := by
  unfold Pattern.readAs at h
  rcases hr : Regex.ofString text with cause | r
  · rw [hr] at h
    cases h
    rfl
  · rw [hr] at h
    cases h

theorem Pattern.pattern_of_compile {source : String} {e : PatternError}
    (h : Pattern.compile source = .error e) : e.pattern = source := by
  unfold Pattern.compile at h
  split at h
  · obtain h | ⟨_, -, h⟩ := bind_error_iff.1 h
    · exact pattern_of_readAs h
    obtain h | ⟨_, -, h⟩ := bind_error_iff.1 h
    · exact pattern_of_readAs h
    obtain h | ⟨_, -, h⟩ := bind_error_iff.1 h
    · exact pattern_of_readAs h
    obtain h | ⟨_, -, h⟩ := bind_error_iff.1 h
    · exact pattern_of_readAs h
    cases h
  · obtain h | ⟨_, -, h⟩ := bind_error_iff.1 h
    · exact pattern_of_readAs h
    cases h

/-- The pattern of the error is refused for the cause that it gives, alone or as a template. -/
def PatternError.Refused (e : PatternError) : Prop :=
  Pattern.compile e.pattern = .error e ∨ EndTemplate.compile e.pattern = .error e

theorem EndTemplate.pattern_of_compile {source : String} {e : PatternError}
    (h : EndTemplate.compile source = .error e) : e.pattern = source := by
  unfold EndTemplate.compile at h
  dsimp only at h
  split at h
  · split at h
    · cases h
    · cases h
      rfl
  · rcases hp : Pattern.compile source with cause | p
    · rw [hp] at h
      cases h
      exact Pattern.pattern_of_compile hp
    · rw [hp] at h
      cases h

namespace Check

variable {scope path : String} {root : Value}

theorem refused_of_error {check : Check} {owner : String} {e : PatternError}
    (h : check.error? scope = some (.invalidPattern owner path e)) :
    owner = scope ∧ e.Refused ∧
      (check = .pattern path e.pattern ∨ check = .template path e.pattern) := by
  cases check with
  | pattern path' source =>
    rw [error?] at h
    split at h
    · cases h
    · rename_i hrefused
      cases h
      obtain rfl := Pattern.pattern_of_compile hrefused
      exact ⟨rfl, .inl hrefused, .inl rfl⟩
  | template path' source =>
    rw [error?] at h
    split at h
    · cases h
    · rename_i hrefused
      cases h
      obtain rfl := EndTemplate.pattern_of_compile hrefused
      exact ⟨rfl, .inr hrefused, .inr rfl⟩
  | scopeName =>
    rw [error?] at h
    split_ifs at h
    cases h
  | flaw path' kind => cases h
  | number path' key =>
    rw [error?] at h
    split at h <;> cases h
  | room key =>
    rw [error?] at h
    split at h
    · split_ifs at h
      cases h
    · cases h

/-- What is checked to be a pattern stands at the place of the check, as errors call the places of
the root. -/
def Stands (root : Value) : Check → Prop
  | pattern path source | template path source => root.Stands path (.string source)
  | _ => True

abbrev AllStand (root : Value) (checks : List Check) : Prop := ∀ check ∈ checks, check.Stands root

theorem allStand_nil : AllStand root [] := List.forall_mem_nil _

theorem AllStand.cons {check : Check} {checks : List Check} (h : check.Stands root)
    (hs : AllStand root checks) : AllStand root (check :: checks) :=
  List.forall_mem_cons.2 ⟨h, hs⟩

theorem AllStand.append {checks more : List Check} (h : AllStand root checks)
    (hmore : AllStand root more) : AllStand root (checks ++ more) :=
  List.forall_mem_append.2 ⟨h, hmore⟩

theorem flaw_stands (kind : Flaw) : AllStand root [flaw path kind] :=
  .cons trivial allStand_nil

theorem region_stands {source : String} {openingCaptures nested closingCaptures : List Check}
    {conditionCaptures : List Check} {endPattern whilePattern : Option String}
    (hsource : root.Stands (childPath path "begin") (.string source))
    (ho : AllStand root openingCaptures) (hn : AllStand root nested)
    (hend : ∀ s, endPattern = some s → root.Stands (childPath path "end") (.string s) ∧
      AllStand root closingCaptures)
    (hwhile : ∀ s, whilePattern = some s → root.Stands (childPath path "while") (.string s) ∧
      AllStand root conditionCaptures) :
    AllStand root (region path source openingCaptures nested endPattern whilePattern closingCaptures
      conditionCaptures) := by
  unfold region
  refine .cons hsource (ho.append (hn.append ?_))
  split
  · obtain ⟨hsource, hc⟩ := hend _ rfl
    exact .cons hsource hc
  · obtain ⟨hsource, hw⟩ := hwhile _ rfl
    exact .cons hsource hw
  · exact flaw_stands _
  · exact flaw_stands _

theorem capture_stands {key : String} {patterns : List Check} (hp : AllStand root patterns) :
    AllStand root (capture path key patterns) := by
  unfold capture
  exact .cons trivial (hp.append (.cons trivial allStand_nil))

mutual

theorem rule_stands : ∀ (spec : RuleSpec) {path : String}, root.Stands path spec.toValue →
    AllStand root (rule path spec)
  | ⟨reference, name, contentName, matchPattern, captures, beginPattern, beginCaptures, endPattern,
      endCaptures, whilePattern, whileCaptures, patterns, ownRepository, applyEndLast⟩,
      path, h => by
    rw [rule.eq_def]
    refine (inner_stands ownRepository fun es hes => h.map ?_).append ?_
    · simp [RuleSpec.maps, hes]
    have hnested : AllStand root (optionalRules path patterns) :=
      optionalRules_stands patterns fun _ hspecs => h.patterns hspecs
    -- Captures for all patterns, at the path where they are asked for.
    have hshared (path : String) (hes : ∀ es, captures = some es →
        root.Stands path (.object (Json.entries RuleSpec.toValue es))) :
        AllStand root (captureMap path [] captures) :=
      captureMap_stands captures (fun _ => allStand_nil) hes
    dsimp only
    split
    · exact allStand_nil
    · exact flaw_stands _
    · refine .cons (h.text ?_) (hshared _ fun es hes => h.map ?_)
      · simp [RuleSpec.texts]
      · simp [RuleSpec.maps, hes]
    · rename_i source
      refine region_stands (h.text ?_) ?_ hnested ?_ ?_
      · simp [RuleSpec.texts]
      · refine captureMap_stands beginCaptures (fun hnone => hshared _ fun es hes =>
          h.map_shared (k := "begin") (s := source) ?_ ?_ ?_ ?_) fun es hes => h.map ?_
        all_goals simp [regionKeys, RuleSpec.texts, RuleSpec.maps, *]
      · rintro source' rfl
        refine ⟨h.text ?_, captureMap_stands endCaptures (fun hnone =>
          hshared _ fun es hes => h.map_shared (k := "end") (s := source') ?_ ?_ ?_ ?_)
          fun es hes => h.map ?_⟩
        all_goals simp [regionKeys, RuleSpec.texts, RuleSpec.maps, *]
      · rintro source' rfl
        refine ⟨h.text ?_, captureMap_stands whileCaptures (fun hnone =>
          hshared _ fun es hes => h.map_shared (k := "while") (s := source') ?_ ?_ ?_ ?_)
          fun es hes => h.map ?_⟩
        all_goals simp [regionKeys, RuleSpec.texts, RuleSpec.maps, *]
    · split
      · exact flaw_stands _
      · exact hnested

theorem inner_stands : ∀ (es : Option (List (String × RuleSpec))) {path : String},
    (∀ ms, es = some ms → root.Stands path (.object (Json.entries RuleSpec.toValue ms))) →
    AllStand root (inner path es)
  | none, path, _ => by
    rw [inner]
    exact allStand_nil
  | some es, path, h => by
    rw [inner]
    exact entries_stands es fun m => (h es rfl).entry

/-- The first rule of the list has number `i`. -/
theorem rules_stands : ∀ (i : Nat) (specs : List RuleSpec) {path : String},
    (∀ j r, specs[j]? = some r → root.Stands (itemPath path (j + i)) r.toValue) →
    AllStand root (rules path i specs)
  | i, [], path, _ => by
    rw [rules]
    exact allStand_nil
  | i, spec :: specs, path, h => by
    rw [rules]
    have hspec := h 0 spec rfl
    rw [Nat.zero_add] at hspec
    refine (rule_stands spec hspec).append (rules_stands (i + 1) specs fun j r hj => ?_)
    rw [← Nat.add_assoc, Nat.add_right_comm]
    exact h (j + 1) r hj

theorem optionalRules_stands : ∀ (specs : Option (List RuleSpec)) {path : String},
    (∀ rs, specs = some rs → root.Stands (childPath path "patterns")
      (.array (rs.map RuleSpec.toValue))) →
    AllStand root (optionalRules path specs)
  | none, path, _ => by
    rw [optionalRules]
    exact allStand_nil
  | some specs, path, h => by
    rw [optionalRules]
    exact rules_stands 0 specs fun j r => (h specs rfl).rule

theorem entries_stands : ∀ (es : List (String × RuleSpec)) {path : String},
    (∀ m ∈ es, root.Stands (childPath path m.1) m.2.toValue) → AllStand root (entries path es)
  | [], path, _ => by
    rw [entries]
    exact allStand_nil
  | (name, spec) :: rest, path, h => by
    rw [entries]
    refine (rule_stands spec (h (name, spec) List.mem_cons_self)).append ?_
    exact entries_stands rest fun m hm => h m (List.mem_cons_of_mem _ hm)

theorem captureMap_stands : ∀ (ms : Option (List (String × RuleSpec))) {path : String}
    {otherwise : List Check}, (ms = none → AllStand root otherwise) →
    (∀ es, ms = some es → root.Stands path (.object (Json.entries RuleSpec.toValue es))) →
    AllStand root (captureMap path otherwise ms)
  | none, path, otherwise, ho, _ => by
    rw [captureMap]
    exact ho rfl
  | some ms, path, otherwise, _, h => by
    rw [captureMap]
    exact captureRules_stands ms fun m => (h ms rfl).entry

theorem captureRules_stands : ∀ (ms : List (String × RuleSpec)) {path : String},
    (∀ m ∈ ms, root.Stands (childPath path m.1) m.2.toValue) → AllStand root (captureRules path ms)
  | [], path, _ => by
    rw [captureRules]
    exact allStand_nil
  | (key, ⟨reference, name, contentName, matchPattern, captures, beginPattern, beginCaptures,
      endPattern, endCaptures, whilePattern, whileCaptures, patterns, ownRepository,
      applyEndLast⟩) :: rest, path, h => by
    rw [captureRules]
    have hkey := h _ List.mem_cons_self
    refine (capture_stands (optionalRules_stands patterns fun _ hspecs =>
      hkey.patterns hspecs)).append ?_
    exact captureRules_stands rest fun m hm => h m (List.mem_cons_of_mem _ hm)

end

theorem injections_stands : ∀ (es : List (String × RuleSpec)),
    (∀ m ∈ es, root.Stands (childPath "injections" m.1) m.2.toValue) → AllStand root (injections es)
  | [], _ => allStand_nil
  | (selector, spec) :: rest, h => by
    refine (rule_stands spec (h (selector, spec) List.mem_cons_self)).append ?_
    exact injections_stands rest fun m hm => h m (List.mem_cons_of_mem _ hm)

theorem firstLine_stands {source : Option String}
    (h : ∀ s, source = some s → root.Stands "firstLineMatch" (.string s)) :
    AllStand root (firstLine source) := by
  rcases source with _ | source
  · exact allStand_nil
  · exact .cons (h source rfl) allStand_nil

end Check

namespace Descriptor

variable (d : Descriptor)

theorem mem_unlessEmpty {α : Type} {key : String} {xs : List α} {v : Value} (h : xs ≠ []) :
    (key, v) ∈ unlessEmpty key xs v := by
  rw [unlessEmpty, if_neg (by simpa using h)]
  exact List.mem_singleton_self _

theorem patterns_stand :
    d.toValue.Stands "patterns" (.array (d.patterns.map RuleSpec.toValue)) := by
  refine Value.stands_member ?_ (by decide)
  simp [RuleSpec.rulesToValue_eq]

theorem firstLine_stands {source : String} (h : d.firstLineMatch = some source) :
    d.toValue.Stands "firstLineMatch" (.string source) := by
  refine Value.stands_member ?_ (by decide)
  simp [RuleSpec.mem_optionalString, h]

theorem repository_stands (h : d.repository ≠ []) :
    d.toValue.Stands "repository" (.object (Json.entries RuleSpec.toValue d.repository)) := by
  refine Value.stands_member ?_ (by decide)
  simp [RuleSpec.entriesToValue_eq, mem_unlessEmpty h]

theorem injections_stand (h : d.injections ≠ []) :
    d.toValue.Stands "injections" (.object (Json.entries RuleSpec.toValue d.injections)) := by
  refine Value.stands_member ?_ (by decide)
  simp [RuleSpec.entriesToValue_eq, mem_unlessEmpty h]

theorem checks_stand : Check.AllStand d.toValue d.checks := by
  refine .cons trivial (.append ?_ (.append ?_ (.append ?_ ?_)))
  · exact Check.entries_stands _ fun m hm =>
      (d.repository_stands (List.ne_nil_of_mem hm)).entry hm
  · exact Check.rules_stands 0 _ fun j r => Value.Stands.rule d.patterns_stand
  · exact Check.injections_stands _ fun m hm =>
      (d.injections_stand (List.ne_nil_of_mem hm)).entry hm
  · exact Check.firstLine_stands fun source => d.firstLine_stands

end Descriptor

namespace Grammar

/-- If a grammar is not compiled because a pattern is refused, the error holds this pattern: it is a
string of the descriptor, and it is refused. The path of the error is what the place of the string
is called, and the place itself where each pattern of a region has its own captures. -/
theorem refused_pattern_called {d : Descriptor} {scope path : String} {e : PatternError}
    (h : compile d = .error (.invalidPattern scope path e)) :
    scope = d.scope ∧ e.Refused ∧ ∃ place called, d.toValue.At place (.string e.pattern) ∧
      d.toValue.CalledAt place called (.string e.pattern) ∧ path = placeText called ∧
      (d.toValue.OwnCaptures → path = placeText place) := by
  rw [compile_error_iff, Check.first?] at h
  obtain ⟨check, hcheck, herror⟩ := List.exists_of_findSome?_eq_some h
  obtain ⟨hscope, hrefused, hkind⟩ := Check.refused_of_error herror
  have hstands : d.toValue.Stands path (.string e.pattern) := by
    have h := d.checks_stand check hcheck
    rcases hkind with rfl | rfl <;> exact h
  obtain ⟨-, place, called, hcalled, rfl⟩ := hstands
  refine ⟨hscope, hrefused, place, called, hcalled.at, hcalled, rfl, fun hown => ?_⟩
  rw [hcalled.called_eq hown]

/-- A region in a repository inside another one. It has captures for all its patterns and for each
of them, and a pattern is refused in those for its end. -/
def nestedRegion : Descriptor :=
  { Descriptor.empty with
    scopeName := "source.nested"
    repository := [("block", { RuleSpec.empty with
      repository := some [("inner", { RuleSpec.empty with
        beginPattern := some "<"
        endPattern := some ">"
        captures := some []
        beginCaptures := some []
        endCaptures := some [("0", { RuleSpec.empty with
          patterns := some [{ RuleSpec.empty with matchPattern := some "a" },
            { RuleSpec.empty with matchPattern := some "(" }] })] })] })] }

theorem nestedRegion_ownCaptures : nestedRegion.toValue.OwnCaptures := by
  have hvalue : nestedRegion.toValue = .object [("scopeName", .string "source.nested"),
      ("names", .array []), ("extensions", .array []), ("patterns", .array []),
      ("repository", .object [("block", .object [("repository", .object [("inner", .object [
        ("captures", .object []), ("begin", .string "<"), ("beginCaptures", .object []),
        ("end", .string ">"), ("endCaptures", .object [("0", .object [("patterns", .array [
          .object [("match", .string "a")], .object [("match", .string "(")]])])])])])])])] := rfl
  rw [hvalue]
  simp [Value.ownCaptures_object_iff, Value.ownCaptures_array_iff, Value.OwnCaptures.string,
    regionKeys]

theorem refused_in_nested_region :
    compile nestedRegion = .error (.invalidPattern "source.nested"
      "repository.block.repository.inner.endCaptures.0.patterns[1].match" ⟨"(", .unclosedGroup⟩) ∧
    nestedRegion.toValue.OwnCaptures ∧ ∃ place, nestedRegion.toValue.At place (.string "(") ∧
      "repository.block.repository.inner.endCaptures.0.patterns[1].match" = placeText place := by
  have h : compile nestedRegion = .error (.invalidPattern "source.nested"
      "repository.block.repository.inner.endCaptures.0.patterns[1].match" ⟨"(", .unclosedGroup⟩) :=
    map_error_iff (f := fun _ => ()).1 (by decide +kernel)
  obtain ⟨-, -, place, -, hat, -, -, hexact⟩ := refused_pattern_called h
  exact ⟨h, nestedRegion_ownCaptures, place, hat, hexact nestedRegion_ownCaptures⟩

/-- A region with captures for all its patterns and none for one of them. -/
def sharedCaptures : Descriptor :=
  { Descriptor.empty with
    scopeName := "source.shared"
    patterns := [{ RuleSpec.empty with
      beginPattern := some "a"
      endPattern := some "b"
      captures := some [("1", { RuleSpec.empty with
        patterns := some [{ RuleSpec.empty with matchPattern := some "(" }] })] }] }

/-- The path leads to captures that the region has not, and the pattern stands nowhere but in those
that stand in for them. -/
theorem shared_captures_misplaced :
    compile sharedCaptures = .error (.invalidPattern "source.shared"
      "patterns[0].beginCaptures.1.patterns[0].match" ⟨"(", .unclosedGroup⟩) ∧
    (∀ place, sharedCaptures.toValue.At place (.string "(") →
      placeText place = "patterns[0].captures.1.patterns[0].match") ∧
    ¬ ∃ place, sharedCaptures.toValue.At place (.string "(") ∧
      placeText place = "patterns[0].beginCaptures.1.patterns[0].match" := by
  have hvalue : sharedCaptures.toValue = .object [("scopeName", .string "source.shared"),
      ("names", .array []), ("extensions", .array []), ("patterns", .array [.object [
        ("captures", .object [("1", .object [("patterns", .array [.object [
          ("match", .string "(")]])])]), ("begin", .string "a"), ("end", .string "b")]])] := rfl
  have hplace : ∀ place, sharedCaptures.toValue.At place (.string "(") →
      placeText place = "patterns[0].captures.1.patterns[0].match" := by
    intro place h
    have hplace : place = [.key "patterns", .item 0, .key "captures", .key "1", .key "patterns",
        .item 0, .key "match"] := by
      simpa [hvalue, Value.at_object_iff, Value.at_array_iff, Value.at_string_iff] using h
    rw [hplace]
    rfl
  refine ⟨map_error_iff (f := fun _ => ()).1 (by decide +kernel), hplace, ?_⟩
  rintro ⟨place, h, htext⟩
  rw [hplace place h] at htext
  exact absurd htext (by decide)

end Grammar

end Scopelight
