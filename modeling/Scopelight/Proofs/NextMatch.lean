import Scopelight.Proofs.Alike
import Scopelight.Tokenizer.Basic

/-!
# The next match does not depend on places and captures

Scanners of alike registries find the same matches, of rules at their new places
(`Scanner.Alike.findNext`), and the tokenizer of an alike registry has such a scanner
(`Registry.Alike.tokenizerWith`).
-/

namespace Scopelight

/-! ## States and matches at other places -/

def Frame.move (f : Nat → Nat) (fr : Frame) : Frame := { fr with rule := fr.rule.move f }

@[simp] theorem Frame.move_rule (f : Nat → Nat) (fr : Frame) :
    (fr.move f).rule = fr.rule.move f := rfl

@[simp] theorem Frame.move_ending (f : Nat → Nat) (fr : Frame) :
    (fr.move f).ending = fr.ending := rfl

def State.move (f : Nat → Nat) (s : State) : State :=
  ⟨s.document.move f, s.regions.map (Frame.move f)⟩

def Candidate.move (f : Nat → Nat) : Candidate → Candidate
  | ending => ending
  | rule ref => rule (ref.move f)

def Found.move (f : Nat → Nat) (found : Found) : Found :=
  { found with candidate := found.candidate.move f }

section Move

variable {f : Nat → Nat}

theorem State.top_move (s : State) : (s.move f).top = s.top.move f := by
  obtain ⟨document, regions⟩ := s
  cases regions <;> rfl

theorem State.frames_move (s : State) : (s.move f).frames = s.frames.map (Frame.move f) := by
  simp [State.move, State.frames]

@[simp]
theorem State.scopes_move (s : State) : (s.move f).scopes = s.scopes := by
  unfold scopes
  rw [top_move]
  rfl

end Move

/-! ## The next match -/

/-- The scanners work with alike registries, and the rules that they try are the same. -/
structure Scanner.Alike (f : Nat → Nat) (sc sc' : Scanner) : Prop where
  registry : sc.registry.Alike f sc'.registry
  nested : ∀ owner, sc.registry.AlikeAt f sc'.registry owner.grammar →
    sc'.nested (owner.move f) = (sc.nested owner).map (RuleRef.move f)
  nested_lt : ∀ owner, ∀ ref ∈ sc.nested owner, ref.grammar < sc.registry.grammars.size
  injections : sc'.injections = sc.injections.map (Prod.map id (List.map (RuleRef.move f)))
  injections_lt : ∀ i ∈ sc.injections, ∀ ref ∈ i.2, ref.grammar < sc.registry.grammars.size
  endPriority : sc'.endPriority = sc.endPriority

namespace Scanner

section Find

variable {f : Nat → Nat} {sc sc' : Scanner} {s : State} {line : Array Char} {origin : Nat}
  {a : Anchors}

theorem Alike.scannable (h : sc.Alike f sc') {refs : List RuleRef}
    (hrefs : ∀ ref ∈ refs, ref.grammar < sc.registry.grammars.size) :
    sc'.scannable (refs.map (RuleRef.move f)) =
      (sc.scannable refs).map (Prod.map (Candidate.move f) id) := by
  unfold Scanner.scannable
  rw [List.filterMap_map, List.map_filterMap]
  refine List.filterMap_congr fun ref href => ?_
  have halike := h.registry.grammar _ (hrefs ref href)
  have hpattern := Registry.bind_eq_of_map_eq halike.map_bare fun rule => rule.scanPattern_bare
  simp only [Function.comp_apply, hpattern, Option.map_map]
  rfl

theorem endCandidate_eq (sc : Scanner) (s : State) :
    sc.endCandidate s =
      if ((sc.registry.rule? s.top.rule).map (·.endsByMatch)).getD false then
        (s.top.ending.map (Candidate.ending, ·)).toList
      else [] := by
  unfold Scanner.endCandidate
  obtain hr | ⟨rule, hr⟩ := Option.eq_none_or_eq_some (sc.registry.rule? s.top.rule)
  · simp only [hr]
    rfl
  · cases rule <;> simp only [hr] <;> rfl

theorem endCandidate_move
    (hs : sc.registry.AlikeAt f sc'.registry s.top.rule.grammar) :
    sc'.endCandidate (s.move f) =
      (sc.endCandidate s).map (Prod.map (Candidate.move f) id) := by
  have hends := Registry.map_eq_of_map_eq hs.map_bare fun rule => rule.endsByMatch_bare
  rw [endCandidate_eq, endCandidate_eq, State.top_move]
  change (if ((sc'.registry.rule? (s.top.rule.move f)).map _).getD false then _ else _) = _
  rw [hends]
  split_ifs
  · change (s.top.ending.map (Candidate.ending, ·)).toList = _
    cases s.top.ending <;> rfl
  · rfl

theorem Alike.endLast (h : sc.Alike f sc')
    (hs : sc.registry.AlikeAt f sc'.registry s.top.rule.grammar) :
    sc'.endLast (s.move f) = sc.endLast s := by
  have hlast := Registry.map_eq_of_map_eq hs.map_bare fun rule => rule.closingLast_bare
  unfold Scanner.endLast
  rw [State.top_move, h.endPriority]
  exact congrArg (fun b => sc.endPriority.endLast (b.getD false)) hlast

theorem Alike.regular (h : sc.Alike f sc')
    (hs : sc.registry.AlikeAt f sc'.registry s.top.rule.grammar) :
    sc'.regular (s.move f) = (sc.regular s).map (Prod.map (Candidate.move f) id) := by
  have hrules : sc'.scannable (sc'.nested (s.move f).top.rule) =
      (sc.scannable (sc.nested s.top.rule)).map (Prod.map (Candidate.move f) id) := by
    rw [State.top_move]
    exact (congrArg sc'.scannable (h.nested _ hs)).trans (h.scannable (h.nested_lt _))
  unfold Scanner.regular
  simp only [h.endLast hs, endCandidate_move hs, hrules]
  split_ifs <;> rw [List.map_append]

theorem Alike.injected (h : sc.Alike f sc') (scopes : List String) :
    sc'.injected scopes =
      (sc.injected scopes).map (Prod.map id (Prod.map (Candidate.move f) id)) := by
  unfold Scanner.injected
  rw [h.injections, List.flatMap_map, List.map_flatMap]
  refine List.flatMap_congr fun i hi => ?_
  obtain ⟨selector, refs⟩ := i
  simp only [Prod.map_apply, id_eq]
  split
  · rw [h.scannable (h.injections_lt _ hi), List.map_map, List.map_map]
    rfl
  · rfl

theorem earliest_move (best : Option Found) (cs : List (Candidate × Pattern)) :
    earliest line origin a (best.map (Found.move f)) (cs.map (Prod.map (Candidate.move f) id)) =
      (earliest line origin a best cs).map (Found.move f) := by
  induction cs generalizing best with
  | nil => rfl
  | cons c cs ih =>
    obtain ⟨candidate, p⟩ := c
    have hany : (best.map (Found.move f)).any (·.hit.start == origin) =
        best.any (·.hit.start == origin) := by
      cases best <;> rfl
    simp only [List.map_cons, Prod.map_apply, id_eq, earliest, hany]
    split_ifs
    · rfl
    · rcases p.search line origin a with _ | m
      · exact ih best
      · have hall : (best.map (Found.move f)).all (m.start < ·.hit.start) =
            best.all (m.start < ·.hit.start) := by
          cases best <;> rfl
        simp only [hall]
        split_ifs
        · exact ih (some ⟨candidate, m⟩)
        · exact ih best

theorem earliestInjected_move (best : Option (Precedence × Found))
    (cs : List (Precedence × Candidate × Pattern)) :
    earliestInjected line origin a (best.map (Prod.map id (Found.move f)))
        (cs.map (Prod.map id (Prod.map (Candidate.move f) id))) =
      (earliestInjected line origin a best cs).map (Prod.map id (Found.move f)) := by
  induction cs generalizing best with
  | nil => rfl
  | cons c cs ih =>
    obtain ⟨precedence, candidate, p⟩ := c
    simp only [List.map_cons, Prod.map_apply, id_eq, earliestInjected]
    rcases p.search line origin a with _ | m
    · exact ih best
    · have hall : (best.map (Prod.map id (Found.move f))).all (m.start < ·.2.hit.start) =
          best.all (m.start < ·.2.hit.start) := by
        cases best <;> rfl
      simp only [hall]
      split_ifs
      · exact ih (some (precedence, ⟨candidate, m⟩))
      · exact ih best

theorem choose_move (best : Option Found) (i : Option (Precedence × Found)) :
    choose (best.map (Found.move f)) (i.map (Prod.map id (Found.move f))) =
      (choose best i).map (Found.move f) := by
  rcases i with _ | ⟨precedence, i⟩
  · cases best <;> rfl
  · rcases best with _ | best
    · rfl
    · simp only [Option.map_some, Prod.map_apply, id_eq, choose]
      change (if i.hit.start < best.hit.start ∨
        (i.hit.start = best.hit.start ∧ precedence = .left) then _ else _) = _
      split_ifs <;> rfl

theorem Alike.findNext (h : sc.Alike f sc')
    (hs : sc.registry.AlikeAt f sc'.registry s.top.rule.grammar) :
    sc'.findNext (s.move f) line origin a = (sc.findNext s line origin a).map (Found.move f) := by
  unfold Scanner.findNext
  rw [h.regular hs, State.scopes_move, h.injected]
  rw [← choose_move, ← earliest_move, ← earliestInjected_move]
  rfl

end Find

end Scanner

/-! ## Tokenizers -/

namespace Registry

/-- What the grammar at a place injects by its selector into documents in another grammar. -/
def foreignInjection (r : Registry) (base limit id : Nat) : Option (Selector × List RuleRef) :=
  if id = base then none
  else do
    let g ← r.grammar? id
    let selector ← g.injectionSelector
    return (selector, r.expandNested base limit ⟨id, g.root⟩)

/-- The rules of a list of injections at their new places. -/
def moveInjections (f : Nat → Nat) (is : List (Selector × List RuleRef)) :
    List (Selector × List RuleRef) :=
  is.map (Prod.map id (List.map (RuleRef.move f)))

section Tokenizer

variable {f : Nat → Nat} {r r' : Registry} {base limit : Nat}

theorem foreignInjections_eq (r : Registry) (base limit : Nat) :
    r.foreignInjections base limit =
      (List.range r.grammars.size).filterMap (r.foreignInjection base limit) := rfl

theorem foreignInjection_eq_some {id : Nat} {i : Selector × List RuleRef}
    (h : r.foreignInjection base limit id = some i) :
    ∃ g, r.grammar? id = some g ∧ g.injectionSelector = some i.1 ∧
      i.2 = r.expandNested base limit ⟨id, g.root⟩ := by
  unfold foreignInjection at h
  split_ifs at h
  obtain ⟨g, hg, h⟩ := Option.bind_eq_some_iff.1 h
  obtain ⟨selector, hs, h⟩ := Option.bind_eq_some_iff.1 h
  cases h
  exact ⟨g, hg, hs, rfl⟩

theorem Alike.foreignInjection (h : r.Alike f r') (hbase : r.AlikeAt f r' base) {n : Nat}
    (hn : r.AlikeAt f r' n) :
    r'.foreignInjection (f base) limit (f n) =
      (r.foreignInjection base limit n).map (Prod.map id (List.map (RuleRef.move f))) := by
  have hrules : ∀ g : Grammar, r'.expandNested (f base) limit ⟨f n, g.root⟩ =
      (r.expandNested base limit ⟨n, g.root⟩).map (RuleRef.move f) := by
    intro g
    have howner : r.AlikeAt f r' (RuleRef.mk n g.root).grammar := hn
    exact h.expandNested hbase limit howner
  unfold Registry.foreignInjection
  simp only [h.injective.eq_iff, hrules]
  split_ifs
  · rfl
  · refine (bind_eq_of_map_eq hn fun g => rfl).trans ?_
    rcases r.grammar? n with _ | g
    · rfl
    · change g.injectionSelector.bind _ = (g.injectionSelector.bind _).map _
      cases g.injectionSelector <;> rfl

theorem moveInjections_id (is : List (Selector × List RuleRef)) : moveInjections id is = is := by
  have hmove : RuleRef.move id = id := rfl
  unfold moveInjections
  rw [hmove, List.map_id_fun, Prod.map_id, List.map_id]

/-- Grammars that are only added inject nothing if they have no selector. -/
theorem Alike.foreignInjections (h : r.Alike id r') (hbase : r.AlikeAt id r' base)
    (hsize : r.grammars.size ≤ r'.grammars.size)
    (hquiet : ∀ n g, r.grammars.size ≤ n → r'.grammar? n = some g → g.injectionSelector = none) :
    r'.foreignInjections base limit = r.foreignInjections base limit := by
  obtain ⟨more, hmore⟩ := Nat.exists_eq_add_of_le hsize
  have hold : (List.range r.grammars.size).filterMap (r'.foreignInjection base limit) =
      (List.range r.grammars.size).filterMap (r.foreignInjection base limit) := by
    refine List.filterMap_congr fun n hn => ?_
    rw [List.mem_range] at hn
    refine (h.foreignInjection hbase (h.grammar n hn)).trans ?_
    have hmove : RuleRef.move id = id := rfl
    rw [hmove, List.map_id_fun, Prod.map_id, Option.map_id_fun, id_eq]
  have hnew : ((List.range more).map (r.grammars.size + ·)).filterMap
      (r'.foreignInjection base limit) = [] := by
    refine List.filterMap_eq_nil_iff.2 fun n hn => ?_
    obtain ⟨k, -, rfl⟩ := List.mem_map.1 hn
    rcases hi : r'.foreignInjection base limit (r.grammars.size + k) with _ | i
    · rfl
    · obtain ⟨g, hg, hs, -⟩ := foreignInjection_eq_some hi
      rw [hquiet _ g (Nat.le_add_right _ _) hg] at hs
      cases hs
  rw [foreignInjections_eq, foreignInjections_eq, hmore, List.range_add, List.filterMap_append,
    hold, hnew, List.append_nil]

variable {scope : String} {config : Config} {t : Tokenizer}

/-- The tokenizer of an alike registry works like the tokenizer of the registry itself. -/
theorem Alike.tokenizerWith (h : r.Alike f r') (hid : r'.idOf? scope = (r.idOf? scope).map f)
    (hforeign : ∀ base, r.idOf? scope = some base →
      r'.foreignInjections (f base) config.includeDepth =
        moveInjections f (r.foreignInjections base config.includeDepth))
    (ht : r.tokenizerWith scope config = .ok t) :
    ∃ t', r'.tokenizerWith scope config = .ok t' ∧ t'.base = f t.base ∧
      t.scanner.Alike f t'.scanner := by
  unfold Registry.tokenizerWith at ht ⊢
  rcases hr : r.idOf? scope with _ | base
  · rw [hr] at ht
    cases ht
  rw [hr] at ht
  rw [hid, hr]
  cases ht
  refine ⟨_, rfl, rfl, ?_⟩
  have hbase := h.alikeAt_of_idOf hr
  exact {
    registry := h
    nested := fun owner howner => h.expandNested hbase _ howner
    nested_lt := fun owner ref href => Concrete.lt (concrete_of_mem_expandNested href)
    injections := by
      have hown : ((r'.grammar? (f base)).map (·.injections)).getD [] =
          ((r.grammar? base).map (·.injections)).getD [] :=
        congrArg (Option.getD · []) (map_eq_of_map_eq hbase fun g => rfl)
      change _ ++ r'.foreignInjections _ _ = List.map _ (_ ++ r.foreignInjections _ _)
      rw [List.map_append, hforeign base hr, List.map_map, hown]
      congr 1
      refine List.map_congr_left fun i _ => ?_
      have hi : r.AlikeAt f r' (RuleRef.mk base i.2).grammar := hbase
      exact congrArg (Prod.mk i.1) (h.expandRule hbase config.includeDepth hi)
    injections_lt := by
      intro i hi ref href
      rcases List.mem_append.1 hi with hi | hi
      · obtain ⟨i, -, rfl⟩ := List.mem_map.1 hi
        exact Concrete.lt (concrete_of_mem_expandRule href)
      · obtain ⟨n, -, hn⟩ := List.mem_filterMap.1 hi
        obtain ⟨g, -, -, hrules⟩ := foreignInjection_eq_some hn
        rw [hrules] at href
        exact Concrete.lt (concrete_of_mem_expandNested href)
    endPriority := rfl }

end Tokenizer

end Registry

end Scopelight
