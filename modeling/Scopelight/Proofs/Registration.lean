import Scopelight.Proofs.Compile
import Scopelight.Proofs.Twin

/-!
# Registering grammars

A call that succeeds adds the compiled grammars one after the other (`register_eq_ok_iff`). So a
registry holds compiled grammars only (`Built.compiled`), and whatever they include is registered or
missing (`Built.included`). Hence a grammar that nobody asked for and that
injects nothing changes no document of the others (`tokenize_register_unrelated`).
-/

namespace Scopelight

theorem Snapshot.size_add (s : Snapshot) (g : Grammar) : (s.add g).grammars.size =
    if (s.byScope.lookup g.scope).isSome then s.grammars.size else s.grammars.size + 1 := by
  unfold add
  rcases s.byScope.lookup g.scope with _ | place
  · exact Array.size_push g
  · exact Array.size_setIfInBounds

theorem Snapshot.config_add (s : Snapshot) (g : Grammar) : (s.add g).config = s.config := by
  unfold add
  rcases s.byScope.lookup g.scope with _ | place <;> rfl

namespace Registry

/-- The registries that are made from one without grammars by registering some. -/
inductive Built : Registry → Prop
  | withConfig (config : Config) : Built (withConfig config)
  | register {r r' : Registry} {ds : List Descriptor} :
    Built r → r.register ds = .ok r' → Built r'

/-- Add a grammar, or put it in the place of the one of its scope. -/
def add (r : Registry) (g : Grammar) : Registry := ⟨r.toSnapshot.add g, Snapshot.agrees_add r.agrees g⟩

/-- Adding compiled grammars one after the other leads from one registry to another. -/
inductive Adds : Registry → List Descriptor → Registry → Prop
  | nil (r : Registry) : Adds r [] r
  | cons {r r' : Registry} {d : Descriptor} {ds : List Descriptor} {g : Grammar} :
    Grammar.compile d = .ok g → Adds (r.add g) ds r' → Adds r (d :: ds) r'

section Adds

variable {r r' : Registry} {ds : List Descriptor}

theorem foldlM_add_eq_ok_iff :
    ds.foldlM (fun r d => return r.add (← Grammar.compile d)) r = Except.ok r' ↔ r.Adds ds r' := by
  induction ds generalizing r with
  | nil =>
    constructor
    · intro h
      cases h
      exact .nil _
    · intro h
      cases h
      rfl
  | cons d ds ih =>
    rw [List.foldlM_cons]
    rcases hd : Grammar.compile d with e | g
    · constructor
      · intro h
        cases h
      · rintro (_ | ⟨hg, -⟩)
        rw [hd] at hg
        cases hg
    · refine (ih (r := r.add g)).trans ⟨.cons hd, ?_⟩
      rintro (_ | ⟨hg, h⟩)
      obtain rfl := Except.ok.inj (hd.symm.trans hg)
      exact h

theorem toSnapshot_foldlM_add (r : Registry) (ds : List Descriptor) :
    ds.foldlM (fun s d => return Snapshot.add s (← Grammar.compile d)) r.toSnapshot =
      toSnapshot <$> ds.foldlM (fun r d => return r.add (← Grammar.compile d)) r := by
  induction ds generalizing r with
  | nil => rfl
  | cons d ds ih =>
    rw [List.foldlM_cons, List.foldlM_cons]
    rcases Grammar.compile d with e | g
    · rfl
    · exact ih (r.add g)

theorem toSnapshot_register (r : Registry) (ds : List Descriptor) :
    r.toSnapshot.register ds = toSnapshot <$> r.register ds := by
  unfold register
  split <;> assumption

theorem map_toSnapshot_injective {x y : Except GrammarError Registry}
    (h : toSnapshot <$> x = toSnapshot <$> y) : x = y := by
  rcases x with e | ⟨s, _⟩ <;> rcases y with e' | ⟨s', _⟩ <;> cases h <;> rfl

theorem register_eq (r : Registry) (ds : List Descriptor) :
    r.register ds = (fun s => { s with version := r.version + 1 }) <$>
      ds.foldlM (fun r d => return r.add (← Grammar.compile d)) r := by
  refine map_toSnapshot_injective ?_
  rw [← toSnapshot_register, Snapshot.register, toSnapshot_foldlM_add]
  generalize ds.foldlM (fun r d => return r.add (← Grammar.compile d)) r = x
  rcases x with e | s <;> rfl

theorem register_eq_ok_iff :
    r.register ds = .ok r' ↔ ∃ s, r.Adds ds s ∧ { s with version := r.version + 1 } = r' := by
  simp only [register_eq, map_ok_iff, foldlM_add_eq_ok_iff]

/-- What the addition of a compiled grammar keeps holds after the addition of several. -/
theorem Adds.keeps {P : Registry → Prop} (h : r.Adds ds r') (hr : P r)
    (hadd : ∀ r d g, P r → Grammar.compile d = .ok g → P (r.add g)) : P r' := by
  induction h with
  | nil => exact hr
  | cons hg _ ih => exact ih (hadd _ _ _ hr hg)

end Adds

section Built

variable {r r' : Registry} {g : Grammar} {id : Nat} {scope : String}

theorem grammar_add (r : Registry) (g : Grammar) (id : Nat) :
    (r.add g).grammar? id = if id = r.placeOf g.scope then some g else r.grammar? id :=
  Snapshot.getElem?_add r.agrees g id

theorem size_add (r : Registry) (g : Grammar) : (r.add g).grammars.size =
    if (r.idOf? g.scope).isSome then r.grammars.size else r.grammars.size + 1 :=
  r.toSnapshot.size_add g

theorem size_le_add (r : Registry) (g : Grammar) : r.grammars.size ≤ (r.add g).grammars.size := by
  rw [size_add]
  split_ifs <;> omega

/-- What holds without grammars, and is kept when a compiled one is added, holds of all registries
that are built. -/
theorem Built.rec_add {P : Registry → Prop} (hempty : ∀ config, P (.withConfig config))
    (hadd : ∀ r d g, P r → Grammar.compile d = .ok g → P (r.add g))
    (hversion : ∀ r version, P r → P { r with version }) (h : r.Built) : P r := by
  induction h with
  | withConfig config => exact hempty config
  | register _ h ih =>
    obtain ⟨s, hs, rfl⟩ := register_eq_ok_iff.1 h
    exact hversion _ _ (hs.keeps ih hadd)

theorem Built.compiled (h : r.Built) (hg : r.grammar? id = some g) :
    ∃ d, Grammar.compile d = .ok g := by
  refine h.rec_add (P := fun r => ∀ id g, r.grammar? id = some g → ∃ d, Grammar.compile d = .ok g)
    ?_ ?_ ?_ id g hg
  · intro config id g hg
    simp [Registry.withConfig, Snapshot.withConfig, grammar?] at hg
  · intro r d g hr hd id g' hg'
    rw [grammar_add] at hg'
    split_ifs at hg'
    · obtain rfl := Option.some.inj hg'
      exact ⟨d, hd⟩
    · exact hr id g' hg'
  · exact fun r version hr => hr

theorem idOf_of_grammar (hg : r.grammar? id = some g) : r.idOf? g.scope = some id :=
  r.agrees.lookup.2 ⟨g, hg, rfl⟩

theorem placeOf_of_idOf (hid : r.idOf? scope = some id) : r.placeOf scope = id := by
  unfold idOf? at hid
  rw [Snapshot.placeOf, hid, Option.getD_some]

theorem placeOf_of_grammar (hg : r.grammar? id = some g) : r.placeOf g.scope = id :=
  placeOf_of_idOf (idOf_of_grammar hg)

theorem Built.included (h : r.Built) (hi : r.Includes scope) :
    (r.idOf? scope).isSome ∨ scope ∈ r.missingDependencies := by
  obtain ⟨ref, target, repository, hr, hs⟩ := hi
  obtain ⟨g, hg, hrule⟩ := Option.bind_eq_some_iff.1 hr
  obtain ⟨d, hd⟩ := h.compiled hg
  have hin : g.Includes scope :=
    ⟨_, Array.mem_toList_iff.2 (Array.mem_of_getElem? hrule), hs⟩
  rcases hid : r.idOf? scope with _ | id
  · have hne : scope ≠ g.scope := by
      rintro rfl
      have hown := idOf_of_grammar hg
      rw [hid] at hown
      cases hown
    refine .inr (List.mem_filter.2 ⟨?_, by simp [hid]⟩)
    rw [Text.mem_sorted, List.mem_flatMap]
    exact ⟨g, Array.mem_toList_iff.2 (Array.mem_of_getElem? hg),
      (Grammar.mem_dependencies_iff hd).2 ⟨hne, .inr hin⟩⟩
  · exact .inl rfl

end Built

/-! ## A grammar that nobody asked for -/

section Unrelated

variable {r : Registry} {d : Descriptor} {g : Grammar} {scope : String}

theorem register_singleton (hg : Grammar.compile d = .ok g) :
    r.register [d] = .ok { r.add g with version := r.version + 1 } :=
  register_eq_ok_iff.2 ⟨_, .cons hg (.nil _), rfl⟩

theorem idOf_add (r : Registry) (g : Grammar) (scope : String) :
    (r.add g).idOf? scope =
      if scope = g.scope then some (r.placeOf g.scope) else r.idOf? scope :=
  r.toSnapshot.lookup_add g scope

theorem placeOf_of_none (hnew : r.idOf? g.scope = none) :
    r.placeOf g.scope = r.grammars.size := by
  unfold idOf? at hnew
  rw [Snapshot.placeOf, hnew, Option.getD_none]

theorem Built.embeds (h : r.Built) (hnew : r.idOf? g.scope = none)
    (hneeded : g.scope ∉ r.missingDependencies) (version : UInt64) :
    r.Embeds id { r.add g with version } where
  injective := Function.injective_id
  grammar := by
    intro n hn
    change (r.add g).grammar? n = _
    rw [grammar_add, placeOf_of_none hnew, if_neg (Nat.ne_of_lt hn)]
  idOf := by
    intro scope hscope
    have hne : scope ≠ g.scope := by
      rintro rfl
      rcases h.included hscope with hs | hs
      · rw [hnew] at hs
        cases hs
      · exact hneeded hs
    change (r.add g).idOf? scope = _
    rw [idOf_add, if_neg hne, Option.map_id_fun, id_eq]

/-- Registering a grammar that no rule includes and that injects nothing changes no document of the
scopes registered before, neither its tokens nor the error that it fails with. -/
theorem tokenize_register_unrelated (hr : r.Built) (hg : Grammar.compile d = .ok g)
    (hnew : r.idOf? g.scope = none) (hneeded : g.scope ∉ r.missingDependencies)
    (hquiet : d.injectionSelector = none) :
    ∃ r', r.register [d] = .ok r' ∧
      ∀ scope doc, (r.idOf? scope).isSome → r'.tokenize doc scope = r.tokenize doc scope := by
  refine ⟨_, register_singleton hg, fun scope doc hscope => ?_⟩
  have hembeds := hr.embeds hnew hneeded (r.version + 1)
  have hne : scope ≠ g.scope := by
    rintro rfl
    rw [hnew] at hscope
    cases hscope
  refine hembeds.tokenize rfl ?_ ?_ doc
  · rw [Option.map_id_fun, id_eq]
    exact (r.idOf_add g scope).trans (if_neg hne)
  · intro base hbase
    rw [moveInjections_id]
    have hlt := lt_of_idOf hbase
    refine hembeds.alike.foreignInjections (hembeds.alike.grammar base hlt) ?_ ?_
    · exact r.size_le_add g
    · intro n g' hn hg'
      change (r.add g).grammar? n = some g' at hg'
      rw [grammar_add] at hg'
      split_ifs at hg'
      · obtain rfl := Option.some.inj hg'
        rw [Grammar.injectionSelector_of_compile hg, hquiet]
        rfl
      · exact absurd (lt_of_grammar hg') (Nat.not_lt.2 hn)

/-- A grammar that includes one which is not there. -/
def lackingGrammar : Descriptor :=
  { Descriptor.empty with
    scopeName := "source.lacking"
    patterns := [
      { RuleSpec.empty with reference := some "source.absent" },
      { RuleSpec.empty with
        name := some "letter"
        matchPattern := some "a" }] }

/-- A grammar that takes the same letters. -/
def otherGrammar : Descriptor :=
  { Descriptor.empty with
    scopeName := "source.other"
    patterns := [
      { RuleSpec.empty with
        name := some "other"
        matchPattern := some "a" }] }

/-- Documents in a grammar that lacks another one stay as they are when a third one comes. -/
theorem tokenize_lacking_beside_other :
    ∃ r r', Registry.empty.register [lackingGrammar] = .ok r ∧
      r.missingDependencies = ["source.absent"] ∧ r.register [otherGrammar] = .ok r' ∧
      ∀ doc, r'.tokenize doc "source.lacking" = r.tokenize doc "source.lacking" := by
  have hlacking : (Registry.empty.register [lackingGrammar]).toOption.any (fun r =>
      r.idOf? "source.lacking" == some 0 && (r.idOf? "source.other" == none &&
        r.missingDependencies == ["source.absent"])) = true := by decide +kernel
  have hother : (Grammar.compile otherGrammar).toOption.any (·.scope == "source.other") = true := by
    decide +kernel
  obtain ⟨r, hr, hlacking⟩ := exists_ok_of_any hlacking
  obtain ⟨g, hg, hscope⟩ := exists_ok_of_any hother
  simp only [Bool.and_eq_true, beq_iff_eq] at hlacking hscope
  obtain ⟨hid, hnew, hmissing⟩ := hlacking
  obtain ⟨r', hr', htokens⟩ := tokenize_register_unrelated (.register (.withConfig _) hr) hg
    (by rw [hscope, hnew]) (by simp [hscope, hmissing]) rfl
  exact ⟨r, r', hr, hmissing, hr', fun doc => htokens _ doc (by simp [hid])⟩

end Unrelated

end Registry

end Scopelight
