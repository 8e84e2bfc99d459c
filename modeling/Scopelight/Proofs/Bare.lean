import Scopelight.Proofs.Twin

/-!
# Captures never influence the state

A registry without its captures finds the same matches, and the captures of a match only add to the
output. So whatever state a line leads to, it leads to the same state without captures
(`tokenizeLine_bare`). The converse fails: without captures there is less that can go wrong.
-/

namespace Scopelight

/-- Captures are left out, and outputs and errors are let go. -/
def Comparison.bare : Comparison where
  place := id
  known := fun _ => True
  captures := fun _ => []
  strict := False
  outputs := fun _ _ => True

theorem lawful_bare : Comparison.bare.Lawful where
  captures_nil := rfl
  start := fun _ => trivial
  produce := fun _ _ _ _ _ => trivial
  emit := by
    intro again again' s line grammar rules m firstLine o o' _ _ _ _
    -- without captures the output stays as it is
    rcases emitCaptures again s line grammar rules m firstLine o with e | p
    · exact .loose id
    · exact .ok trivial

/-- A change to grammars that keeps their scopes keeps the table of scopes in agreement. -/
theorem ScopeTable.Agrees.map {table : ScopeTable} {grammars : Array Grammar}
    (h : table.Agrees grammars) (f : Grammar → Grammar) (hf : ∀ g, (f g).scope = g.scope) :
    table.Agrees (grammars.map f) where
  nodup := h.nodup
  lookup := h.lookup.trans (by simp [hf])

namespace Registry

/-- The registry without the captures of its rules. -/
def bare (r : Registry) : Registry :=
  { r with
    grammars := r.grammars.map Grammar.bare
    agrees := r.agrees.map Grammar.bare fun _ => rfl }

section Bare

variable {r : Registry} {scope : String} {config : Config} {fresh : Tokenizer}

theorem grammar_bare (r : Registry) (id : Nat) :
    r.bare.grammar? id = (r.grammar? id).map Grammar.bare := by
  simp [bare, grammar?]

theorem idOf_bare (r : Registry) (scope : String) : r.bare.idOf? scope = r.idOf? scope := rfl

theorem alike_bare (r : Registry) : r.Alike id r.bare where
  injective := Function.injective_id
  grammar := by
    intro n _
    unfold AlikeAt
    rw [id_eq, grammar_bare, Option.map_map]
    exact congrArg (Option.map · _) (funext fun g => g.bare_mapCaptures _)
  idOf := by
    intro scope _
    rw [idOf_bare, Option.map_id_fun, id_eq]

theorem exists_bare_tokenizer (h : r.tokenizerWith scope config = .ok fresh) :
    ∃ fresh', r.bare.tokenizerWith scope config = .ok fresh' ∧
      fresh.scanner.Follows .bare fresh'.scanner := by
  have halike := r.alike_bare
  have hsize : r.bare.grammars.size = r.grammars.size := by simp [bare]
  have hid : r.bare.idOf? scope = (r.idOf? scope).map id := by
    rw [idOf_bare, Option.map_id_fun, id_eq]
  have hforeign : ∀ base, r.idOf? scope = some base →
      r.bare.foreignInjections base config.includeDepth =
        moveInjections id (r.foreignInjections base config.includeDepth) := by
    intro base hbase
    rw [moveInjections_id]
    refine halike.foreignInjections (halike.alikeAt_of_idOf hbase) (Nat.le_of_eq hsize.symm) ?_
    intro n g hn hg
    have hlt := lt_of_grammar hg
    omega
  obtain ⟨fresh', h', -, hscanner⟩ := halike.tokenizerWith hid hforeign h
  obtain ⟨rfl, -⟩ := registry_of_tokenizerWith h
  obtain ⟨hr', -⟩ := registry_of_tokenizerWith h'
  refine ⟨fresh', h', hscanner, fun n _ => ?_, fun _ _ _ => trivial⟩
  change fresh'.registry.grammar? n = (fresh.registry.grammar? n).map Grammar.bare
  rw [hr', grammar_bare]

/-- A line that leads to a state leads to the same state without captures, from every state, on
every tokenizer of the registry and whatever it met before. -/
theorem tokenizeLine_bare (h : r.tokenizerWith scope config = .ok fresh) :
    ∃ fresh', r.bare.tokenizerWith scope config = .ok fresh' ∧
      ∀ t t' s line firstLine tokens next, fresh.History t → fresh'.History t' →
        (t.tokenizeLine line s firstLine).1 = .ok (tokens, next) →
        ∃ tokens', (t'.tokenizeLine line s firstLine).1 = .ok (tokens', next) := by
  obtain ⟨fresh', h', hfollows⟩ := exists_bare_tokenizer h
  refine ⟨fresh', h', fun t t' s line firstLine tokens next ht ht' hl => ?_⟩
  rw [ht.tokenizeLine_fst (truthful_of_tokenizerWith h)] at hl
  rw [ht'.tokenizeLine_fst (truthful_of_tokenizerWith h')]
  have hline := hfollows.lineTokens lawful_bare (s := s) (fun _ _ => trivial) line firstLine
  have hplace : ∀ s : State, s.move Comparison.bare.place = s := State.move_id
  rw [hplace] at hline
  obtain ⟨answer, hl', hanswers⟩ := hline.exists_ok hl
  cases hanswers with
  | mk _ _ =>
    rw [hplace] at hl'
    exact ⟨_, hl'⟩

/-- A line that opens a group and has a capture that is tokenized again. -/
theorem bare_line_in_group :
    ∃ fresh fresh' tokens tokens' next,
      sampleRegistry.tokenizerWith "source.sample" .default = .ok fresh ∧
      sampleRegistry.bare.tokenizerWith "source.sample" .default = .ok fresh' ∧
      (fresh.tokenizeLine "(a=b1".toList fresh.initialState true).1 = .ok (tokens, next) ∧
      next.depth = 1 ∧
      (fresh'.tokenizeLine "(a=b1".toList fresh.initialState true).1 = .ok (tokens', next) := by
  have hline : (sampleRegistry.tokenizerWith "source.sample" .default).toOption.any (fun t =>
      (t.tokenizeLine "(a=b1".toList t.initialState true).1.toOption.any (·.2.depth == 1)) =
      true := by decide +kernel
  obtain ⟨fresh, h, hline⟩ := exists_ok_of_any hline
  obtain ⟨⟨tokens, next⟩, hl, hdepth⟩ := exists_ok_of_any hline
  obtain ⟨fresh', h', hbare⟩ := tokenizeLine_bare h
  obtain ⟨tokens', hl'⟩ := hbare _ _ _ _ _ _ _ .start .start hl
  exact ⟨fresh, fresh', tokens, tokens', next, h, h', hl, eq_of_beq hdepth, hl'⟩

end Bare

end Registry

end Scopelight
