import Mathlib.Data.List.Nodup
import Scopelight.Proofs.Snapshots

/-!
# The order in which grammars are registered

Grammars registered in another order stand at other places, and each of them can be found there by its
scope. A registry therefore embeds into every registry of the same grammars along the map that takes
places to places (`Holds.embeds`). If none of the grammars injects rules into the others, all documents
get the same tokens from both (`tokenize_register_perm`).
-/

namespace Scopelight

namespace Registry

variable {r r' : Registry} {ds ds' : List Descriptor} {g g' : Grammar} {id : Nat} {scope : String}

/-- The place in the second registry of the scope at a place of the first one. What is no place of
the first is none of the second. -/
def newPlace (r r' : Registry) (id : Nat) : Nat :=
  match r.grammar? id with
  | some g => r'.placeOf g.scope
  | none => r'.grammars.size + id

theorem newPlace_of_some (r' : Registry) (hg : r.grammar? id = some g) :
    r.newPlace r' id = r'.placeOf g.scope := by
  simp only [newPlace, hg]

theorem newPlace_of_none (r' : Registry) (hg : r.grammar? id = none) :
    r.newPlace r' id = r'.grammars.size + id := by
  simp only [newPlace, hg]

/-- Descriptors of different scopes leave one grammar for each scope, in whatever order they come. -/
theorem LatestOf.eq_of_perm (hperm : ds.Perm ds') (hscopes : (ds.map Descriptor.scope).Nodup)
    (h : LatestOf ds g) (h' : LatestOf ds' g') (hs : g'.scope = g.scope) : g' = g := by
  obtain ⟨before, d, after, hds, hd, -⟩ := h
  obtain ⟨before', d', after', hds', hd', -⟩ := h'
  have hmem : d ∈ ds := by simp [hds]
  have hmem' : d' ∈ ds := hperm.mem_iff.2 (by simp [hds'])
  have hscope : d'.scope = d.scope := by
    rw [← Grammar.scope_of_compile hd', ← Grammar.scope_of_compile hd, hs]
  obtain rfl := List.inj_on_of_nodup_map hscopes hmem' hmem hscope
  exact Except.ok.inj (hd'.symm.trans hd)

section Embeds

variable (h : r.Holds ds) (h' : r'.Holds ds') (hperm : ds.Perm ds')
include h h' hperm

theorem Holds.idOf_newPlace (scope : String) :
    r'.idOf? scope = (r.idOf? scope).map (r.newPlace r') := by
  have hiff : (r'.idOf? scope).isSome ↔ (r.idOf? scope).isSome := by
    rw [h.isSome_iff, h'.isSome_iff]
    exact (hperm.map Descriptor.scope).symm.mem_iff
  rcases hid : r.idOf? scope with _ | id
  · have hnone : ¬ (r'.idOf? scope).isSome := by simp [hiff, hid]
    simpa using hnone
  · obtain ⟨id', hid'⟩ := Option.isSome_iff_exists.1 (hiff.2 (by simp [hid]))
    obtain ⟨g, hg, rfl, -⟩ := h.exists_grammar hid
    rw [Option.map_some, newPlace_of_some r' hg, placeOf_of_idOf hid', hid']

theorem Holds.idOf_newPlace_of_grammar (hg : r.grammar? id = some g) :
    r'.idOf? g.scope = some (r.newPlace r' id) := by
  rw [h.idOf_newPlace h' hperm, idOf_of_grammar hg, Option.map_some]

theorem Holds.newPlace_injective : Function.Injective (r.newPlace r') := by
  intro a b hab
  rcases ha : r.grammar? a with _ | g <;> rcases hb : r.grammar? b with _ | g'
  · rw [newPlace_of_none r' ha, newPlace_of_none r' hb] at hab
    omega
  · have hlt := lt_of_idOf (h.idOf_newPlace_of_grammar h' hperm hb)
    rw [newPlace_of_none r' ha] at hab
    omega
  · have hlt := lt_of_idOf (h.idOf_newPlace_of_grammar h' hperm ha)
    rw [newPlace_of_none r' hb] at hab
    omega
  · have hplace := h.idOf_newPlace_of_grammar h' hperm ha
    rw [hab] at hplace
    have hscope := idOf_injective hplace (h.idOf_newPlace_of_grammar h' hperm hb)
    have hid := idOf_of_grammar ha
    rw [hscope, idOf_of_grammar hb] at hid
    exact (Option.some.inj hid).symm

theorem Holds.embeds (hscopes : (ds.map Descriptor.scope).Nodup) :
    r.Embeds (r.newPlace r') r' where
  injective := h.newPlace_injective h' hperm
  grammar id hid := by
    obtain ⟨g, hg⟩ : ∃ g, r.grammar? id = some g := ⟨_, Array.getElem?_eq_getElem hid⟩
    obtain ⟨g', hg', hs, hlatest⟩ := h'.exists_grammar (h.idOf_newPlace_of_grammar h' hperm hg)
    rw [hg', hg, (h.latest hg).eq_of_perm hperm hscopes hlatest hs]
  idOf scope _ := h.idOf_newPlace h' hperm scope

end Embeds

theorem Holds.foreignInjections_eq_nil (h : r.Holds ds)
    (hquiet : ∀ d ∈ ds, d.injectionSelector = none) (base limit : Nat) :
    r.foreignInjections base limit = [] := by
  rw [foreignInjections_eq, List.filterMap_eq_nil_iff]
  intro id _
  rcases hi : r.foreignInjection base limit id with _ | i
  · rfl
  · obtain ⟨g, hg, hselector, -⟩ := foreignInjection_eq_some hi
    obtain ⟨before, d, after, hds, hd, -⟩ := h.latest hg
    have hnone := hquiet d (by simp [hds])
    rw [Grammar.injectionSelector_of_compile hd, hnone] at hselector
    cases hselector

theorem Adds.config (h : r.Adds ds r') : r'.config = r.config := by
  refine h.keeps (P := fun s => s.config = r.config) rfl fun s d g hs _ => ?_
  rw [← hs]
  exact s.toSnapshot.config_add g

/-- Grammars of different scopes that inject nothing into each other can be registered in any order:
every document gets the same tokens, or fails with the same error. -/
theorem tokenize_register_perm (config : Config) (hperm : ds.Perm ds')
    (hcompiles : Compiles ds = true) (hscopes : (ds.map Descriptor.scope).Nodup)
    (hquiet : ∀ d ∈ ds, d.injectionSelector = none) :
    ∃ r r', (withConfig config).register ds = .ok r ∧ (withConfig config).register ds' = .ok r' ∧
      ∀ doc scope, r'.tokenize doc scope = r.tokenize doc scope := by
  have hcompiles' : Compiles ds' = true := by
    rw [Compiles, List.all_eq_true] at hcompiles ⊢
    exact fun d hd => hcompiles d (hperm.mem_iff.2 hd)
  have hquiet' : ∀ d ∈ ds', d.injectionSelector = none := fun d hd =>
    hquiet d (hperm.mem_iff.2 hd)
  obtain ⟨s, hs⟩ := exists_adds hcompiles (withConfig config)
  obtain ⟨s', hs'⟩ := exists_adds hcompiles' (withConfig config)
  refine ⟨_, _, register_eq_ok_iff.2 ⟨s, hs, rfl⟩, register_eq_ok_iff.2 ⟨s', hs', rfl⟩, ?_⟩
  have h := ((holds_withConfig config).adds hs).version ((withConfig config).version + 1)
  have h' := ((holds_withConfig config).adds hs').version ((withConfig config).version + 1)
  have hconfig : s'.config = s.config := hs'.config.trans hs.config.symm
  intro doc scope
  refine (h.embeds h' hperm hscopes).tokenize hconfig (h.idOf_newPlace h' hperm scope) ?_ doc
  intro base _
  rw [h.foreignInjections_eq_nil hquiet, h'.foreignInjections_eq_nil hquiet']
  rfl

/-- A grammar that gives its documents over to another one and takes them back inside brackets. -/
def hostGrammar : Descriptor :=
  { Descriptor.empty with
    scopeName := "source.host"
    patterns := [
      { RuleSpec.empty with reference := some "source.guest#brackets" },
      { RuleSpec.empty with
        name := some "digit"
        matchPattern := some "[0-9]" }] }

def guestGrammar : Descriptor :=
  { Descriptor.empty with
    scopeName := "source.guest"
    patterns := [{ RuleSpec.empty with reference := some "#brackets" }]
    repository := [
      ("brackets", { RuleSpec.empty with
        beginPattern := some "\\["
        endPattern := some "\\]"
        patterns := some [{ RuleSpec.empty with reference := some "$base" }] })] }

/-- Two grammars that need each other may change places. -/
theorem tokenize_host_beside_guest :
    ∃ r r', empty.register [hostGrammar, guestGrammar] = .ok r ∧
      empty.register [guestGrammar, hostGrammar] = .ok r' ∧
      r.idOf? "source.host" = some 0 ∧ r'.idOf? "source.host" = some 1 ∧
      ∀ doc scope, r'.tokenize doc scope = r.tokenize doc scope := by
  have hfirst : (empty.register [hostGrammar, guestGrammar]).toOption.any
      (·.idOf? "source.host" == some 0) = true := by decide +kernel
  have hsecond : (empty.register [guestGrammar, hostGrammar]).toOption.any
      (·.idOf? "source.host" == some 1) = true := by decide +kernel
  have hswap : [hostGrammar, guestGrammar].Perm [guestGrammar, hostGrammar] := .swap _ _ []
  obtain ⟨r, r', hr, hr', htokens⟩ := tokenize_register_perm .default hswap
    (by decide +kernel) (by decide +kernel) (by decide +kernel)
  change empty.register _ = _ at hr hr'
  rw [hr] at hfirst
  rw [hr'] at hsecond
  exact ⟨r, r', hr, hr', beq_iff_eq.1 hfirst, beq_iff_eq.1 hsecond, htokens⟩

end Registry

end Scopelight
