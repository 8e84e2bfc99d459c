import Mathlib.Data.List.Chain
import Scopelight.Proofs.Memory
import Scopelight.Proofs.Step

/-!
# The states that documents reach

At the bottom of a state lies the document, with the scope of its grammar and without an end pattern,
so that it is never closed. Above it lie regions, each of a rule that opens regions, each with a
pattern made from the template of its rule, and each with more scopes than the one below it
(`State.Nested`). A step opens such a region on top or closes the top one, and the conditions of
while regions cut the state from the top, so every line keeps all of it (`reachable_nested`).
-/

namespace Scopelight

/-- An open region belongs to a rule with a template, and its pattern is what the template gives for
some match. Between the delimiters it has all scopes of the delimiters. -/
structure Frame.Opened (r : Registry) (f : Frame) : Prop where
  pattern : ∃ rule t line m p, r.rule? f.rule = some rule ∧ rule.template? = some t ∧
    t.instantiate line m = .ok p ∧ f.ending = some p
  content : f.nameScopes <+: f.contentScopes

namespace State

/-- The document at the bottom is the root of its grammar and has its scope; regions are open above
it, each with the scopes of the one below. -/
structure Nested (r : Registry) (root : RuleRef) (scope : String) (s : State) : Prop where
  rule : s.document.rule = root
  nameScopes : s.document.nameScopes = [scope]
  contentScopes : s.document.contentScopes = [scope]
  ending : s.document.ending = none
  opened : ∀ f ∈ s.regions, f.Opened r
  chain : s.frames.IsChain fun inner outer => outer.contentScopes <+: inner.nameScopes

/-- No frame has a place on a line. -/
def Settled (s : State) : Prop := ∀ f ∈ s.frames, f.anchor = none ∧ f.entered = none

section Nested

variable {r : Registry} {root : RuleRef} {scope : String} {s : State}

theorem nested_initial : (initial root scope).Nested r root scope where
  rule := rfl
  nameScopes := rfl
  contentScopes := rfl
  ending := rfl
  opened := fun f hf => by simp [initial] at hf
  chain := by simp [initial, frames]

theorem frames_eq_cons (s : State) : ∃ fs, s.frames = s.top :: fs := by
  obtain ⟨document, regions⟩ := s
  rcases regions with _ | ⟨f, fs⟩
  · exact ⟨[], rfl⟩
  · exact ⟨fs ++ [document], rfl⟩

theorem frames_forgetPlaces (s : State) :
    s.forgetPlaces.frames = s.frames.map Frame.forgetPlaces := by
  simp [frames, forgetPlaces]

theorem Nested.push (hs : s.Nested r root scope) {f : Frame} (hf : f.Opened r)
    (hscopes : s.scopes <+: f.nameScopes) : (s.push f).Nested r root scope where
  rule := hs.rule
  nameScopes := hs.nameScopes
  contentScopes := hs.contentScopes
  ending := hs.ending
  opened := by
    intro g hg
    rcases List.mem_cons.1 hg with rfl | hg
    · exact hf
    · exact hs.opened g hg
  chain := by
    change (f :: s.frames).IsChain _
    have hchain := hs.chain
    obtain ⟨fs, hfs⟩ := s.frames_eq_cons
    rw [hfs] at hchain ⊢
    exact List.isChain_cons_cons.2 ⟨hscopes, hchain⟩

/-- Closing regions from the innermost on leaves the rest as it was. -/
theorem Nested.of_suffix (hs : s.Nested r root scope) {t : State} (hd : t.document = s.document)
    (hr : t.regions <:+ s.regions) : t.Nested r root scope where
  rule := hd ▸ hs.rule
  nameScopes := hd ▸ hs.nameScopes
  contentScopes := hd ▸ hs.contentScopes
  ending := hd ▸ hs.ending
  opened := fun f hf => hs.opened f (hr.subset hf)
  chain := by
    obtain ⟨gs, hgs⟩ := hr
    have hframes : s.frames = gs ++ t.frames := by
      unfold frames
      rw [← hgs, hd, List.append_assoc]
    have hchain := hs.chain
    rw [hframes] at hchain
    exact hchain.right_of_append

theorem Nested.forgetPlaces (hs : s.Nested r root scope) :
    s.forgetPlaces.Nested r root scope where
  rule := hs.rule
  nameScopes := hs.nameScopes
  contentScopes := hs.contentScopes
  ending := hs.ending
  opened := by
    intro f hf
    obtain ⟨g, hg, rfl⟩ := List.mem_map.1 hf
    obtain ⟨hpattern, hcontent⟩ := hs.opened g hg
    exact ⟨hpattern, hcontent⟩
  chain := by
    rw [frames_forgetPlaces, List.isChain_map]
    exact hs.chain

theorem settled_forgetPlaces (s : State) : s.forgetPlaces.Settled := by
  intro f hf
  rw [frames_forgetPlaces] at hf
  obtain ⟨g, -, rfl⟩ := List.mem_map.1 hf
  exact ⟨rfl, rfl⟩

theorem Settled.forgetPlaces_eq (hs : s.Settled) : s.forgetPlaces = s := by
  have hframe : ∀ f ∈ s.frames, Frame.forgetPlaces f = f := by
    intro f hf
    obtain ⟨hanchor, hentered⟩ := hs f hf
    cases f
    cases hanchor
    cases hentered
    rfl
  have hdocument := hframe s.document (List.mem_append_right _ (List.mem_singleton_self _))
  have hregions : s.regions.map Frame.forgetPlaces = s.regions :=
    (List.map_congr_left fun f hf => hframe f (List.mem_append_left _ hf)).trans (List.map_id _)
  rw [forgetPlaces, hdocument, hregions]

end Nested

end State

section Run

variable {sc : Scanner} {again : Retokenize} {line : Array Char} {c c' : Cursor} {root : RuleRef}
  {scope : String}

theorem Step.nested (h : Step sc again line c c') (hc : c.state.Nested sc.registry root scope) :
    c'.state.Nested sc.registry root scope := by
  cases h with
  | close hs hr he hm ho => exact hc.of_suffix rfl (by rw [hs]; exact List.suffix_cons _ _)
  | closeDocument hs hr he hm ho =>
    have := hc.ending
    rw [hs] at this
    rw [this] at he
    cases he
  | single hr hm ho => exact hc
  | skip hr hp hm hempty hentered => exact hc
  | @opens ref rule t p q m o hr ht hp hm hnew ho hq =>
    refine hc.push ⟨⟨rule, t, line, m, q, hr, ht, hq, rfl⟩, List.prefix_append _ _⟩ ?_
    exact List.prefix_append _ _

theorem scan_nested {n : Nat} (hc : c.state.Nested sc.registry root scope)
    (h : sc.scan n line c = .ok c') : c'.state.Nested sc.registry root scope := by
  obtain ⟨c₀, hc₀, rfl⟩ := Scanner.scan_ok (P := fun c => c.state.Nested sc.registry root scope) n
    (fun _ _ _ _ hc h => h.nested hc) hc h
  exact hc₀

theorem scanLine_nested {fuel : Nat} {s : State} {firstLine : Bool}
    (hs : s.Nested sc.registry root scope) (h : sc.scanLine fuel s line firstLine = .ok c') :
    c'.state.Nested sc.registry root scope := by
  obtain ⟨c, hwhile, hscan⟩ := Scanner.scanLine_ok h
  obtain ⟨hd, hr⟩ := Scanner.checkWhile_lineStart hwhile
  exact scan_nested (hs.of_suffix hd hr) hscan

end Run

namespace Tokenizer

theorem lineTokens_nested {t : Tokenizer} {root : RuleRef} {scope : String} {line : List Char}
    {s next : State} {firstLine : Bool} {tokens : List Token}
    (hs : s.Nested t.registry root scope) (h : t.lineTokens line s firstLine = .ok (tokens, next)) :
    next.Nested t.registry root scope := by
  obtain ⟨c, hc, h⟩ := bind_ok_iff.1 h
  cases h
  exact (scanLine_nested hs hc).forgetPlaces

theorem lineTokens_settled {t : Tokenizer} {line : List Char} {s next : State} {firstLine : Bool}
    {tokens : List Token} (h : t.lineTokens line s firstLine = .ok (tokens, next)) :
    next.Settled := by
  obtain ⟨c, -, h⟩ := bind_ok_iff.1 h
  cases h
  exact State.settled_forgetPlaces c.state

section Reachable

variable {r : Registry} {scope : String} {config : Config} {fresh : Tokenizer} {s : State}

theorem Reachable.nested (h : r.tokenizerWith scope config = .ok fresh) (hs : fresh.Reachable s)
    {g : Grammar} (hg : r.grammar? fresh.base = some g) :
    s.Nested r ⟨fresh.base, g.root⟩ scope := by
  obtain ⟨g', hg', -, -, hinitial⟩ := Registry.grammar_of_tokenizerWith h
  obtain ⟨hr, -⟩ := Registry.registry_of_tokenizerWith h
  obtain rfl : g = g' := Option.some.inj (hg.symm.trans hg')
  refine hs.rec_line (Registry.truthful_of_tokenizerWith h)
    (P := fun s => s.Nested r ⟨fresh.base, g.root⟩ scope) ?_ ?_
  · rw [hinitial]
    exact State.nested_initial
  · intro line s next firstLine tokens hs hl
    subst hr
    exact lineTokens_nested hs hl

theorem Reachable.settled (h : r.tokenizerWith scope config = .ok fresh)
    (hs : fresh.Reachable s) : s.Settled := by
  obtain ⟨g, -, -, -, hinitial⟩ := Registry.grammar_of_tokenizerWith h
  refine hs.rec_line (Registry.truthful_of_tokenizerWith h) (P := State.Settled) ?_ ?_
  · rw [hinitial]
    intro f hf
    obtain rfl := List.mem_singleton.1 hf
    exact ⟨rfl, rfl⟩
  · exact fun _ _ _ _ _ _ hl => lineTokens_settled hl

/-- In every state that lines lead to, the document is the root of its grammar, with its scope and
without an end pattern, regions of its registry's rules are open above it, and no place of a line is
left. -/
theorem reachable_nested (h : r.tokenizerWith scope config = .ok fresh)
    (hs : fresh.Reachable s) :
    ∃ g, r.grammar? fresh.base = some g ∧ g.scope = scope ∧
      s.Nested r ⟨fresh.base, g.root⟩ scope ∧ s.Settled := by
  obtain ⟨g, hg, hscope, -, -⟩ := Registry.grammar_of_tokenizerWith h
  exact ⟨g, hg, hscope, hs.nested h hg, hs.settled h⟩

end Reachable

/-- A line that opens two groups leads to a state with both. -/
theorem nested_in_two_groups :
    ∃ fresh s g, sampleRegistry.tokenizerWith "source.sample" .default = .ok fresh ∧
      fresh.Reachable s ∧ s.depth = 2 ∧ sampleRegistry.grammar? fresh.base = some g ∧
      s.Nested sampleRegistry ⟨fresh.base, g.root⟩ "source.sample" ∧ s.Settled := by
  have hline : (sampleRegistry.tokenizerWith "source.sample" .default).toOption.any (fun t =>
      (t.tokenizeLine "(a(\n".toList t.initialState true).1.toOption.any (·.2.depth == 2)) =
      true := by decide +kernel
  obtain ⟨fresh, ht, hline⟩ := exists_ok_of_any hline
  obtain ⟨⟨tokens, next⟩, hl, hdepth⟩ := exists_ok_of_any hline
  have hreach : fresh.Reachable next := .line .start .initial hl
  obtain ⟨g, hg, -, hnested, hsettled⟩ := reachable_nested ht hreach
  exact ⟨fresh, next, g, ht, hreach, eq_of_beq hdepth, hg, hnested, hsettled⟩

end Tokenizer

end Scopelight
