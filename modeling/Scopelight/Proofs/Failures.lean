import Scopelight.Proofs.Highlighter
import Scopelight.Proofs.Termination

/-!
# Why tokens cannot be made

Patterns are read when a grammar is compiled, all but the end and while patterns that refer back:
these are read when their region opens, and only that can fail. `Only` follows the one error through
the captures, steps and lines of a scan. So an error of a line names a rule whose template refers
back, and without such rules every document has tokens (`fails_only_by_backreferences`).
-/

namespace Scopelight

open Text

/-- All errors are of one kind. -/
def Only {α : Type} (P : Failure → Prop) (x : Scan α) : Prop := ∀ e, x = .error e → P e

section Only

variable {α β : Type} {P : Failure → Prop} {x : Scan α}

theorem only_ok (a : α) : Only P (.ok a) := by
  intro e h
  cases h

theorem Only.bind (hx : Only P x) {f : α → Scan β} (hf : ∀ a, Only P (f a)) : Only P (x >>= f) := by
  rcases x with e | a
  · intro e' h
    cases h
    exact hx e rfl
  · exact hf a

theorem Only.map (hx : Only P x) (f : α → β) : Only P (f <$> x) := by
  rcases x with e | a
  · intro e' h
    cases h
    exact hx e rfl
  · exact only_ok (f a)

end Only

theorem EndTemplate.hasBackreferences_of_error {t : EndTemplate} {line : Array Char}
    {m : Regex.Match} {e : PatternError} (h : t.instantiate line m = .error e) :
    t.hasBackreferences = true := by
  cases t with
  | fixed p => cases h
  | perRegion source => rfl

namespace Registry

/-- What can go wrong: the steps run out, or a region opens whose end or while pattern cannot be read
with the texts that it refers back to. -/
inductive Raises (r : Registry) : Failure → Prop
  | stepLimit : Raises r .stepLimit
  | template {ref : RuleRef} {g : Grammar} {rule : Rule} {t : EndTemplate} {line : Array Char}
      {m : Regex.Match} {cause : PatternError} (hg : r.grammar? ref.grammar = some g)
      (hr : g.rule? ref.rule = some rule) (ht : rule.template? = some t)
      (he : t.instantiate line m = .error cause) :
    Raises r (.grammar (.invalidPattern g.scope ("rule " ++ toString ref.rule ++ " end") cause))

end Registry

section Captures

variable {P : Failure → Prop} {again : Retokenize} {s : State} {line : Array Char} {grammar : Nat}
  {m : Regex.Match} {firstLine : Bool}

theorem only_emitGroups (hagain : ∀ s part start firstLine, Only P (again s part start firstLine))
    (rules : CaptureRules) (open_ : List OpenCapture) (o : Output) :
    Only P (emitGroups again s line grammar m firstLine rules open_ o) := by
  induction rules generalizing open_ o with
  | nil => exact only_ok _
  | cons e rest ih =>
    obtain ⟨n, rule⟩ := e
    simp only [emitGroups]
    split
    · exact ih _ _
    · split_ifs
      · exact ih _ _
      · split
        · exact (hagain _ _ _ _).bind fun part => ih _ _
        · split <;> exact ih _ _

theorem only_emitCaptures (hagain : ∀ s part start firstLine, Only P (again s part start firstLine))
    (rules : CaptureRules) (o : Output) :
    Only P (emitCaptures again s line grammar rules m firstLine o) :=
  only_emitGroups hagain rules [] o

end Captures

namespace Scanner

section Step

variable {sc : Scanner} {again : Retokenize} {line : Array Char}

theorem only_applyEnd {P : Failure → Prop}
    (hagain : ∀ s part start firstLine, Only P (again s part start firstLine)) (c : Cursor)
    (m : Regex.Match) : Only P (sc.applyEnd again line c m) := by
  unfold applyEnd
  dsimp only
  split
  · refine (only_emitCaptures hagain _ _).bind fun o => ?_
    split_ifs <;> exact only_ok _
  · simp only [pure_bind]
    split_ifs <;> exact only_ok _

theorem only_openRegion
    (hagain : ∀ s part start firstLine, Only sc.registry.Raises (again s part start firstLine))
    {ref : RuleRef} {rule : Rule} {t : EndTemplate} (hr : sc.registry.rule? ref = some rule)
    (ht : rule.template? = some t) (captures : CaptureRules) (c : Cursor) (m : Regex.Match) :
    Only sc.registry.Raises (sc.openRegion again line c ref rule t captures m) := by
  unfold openRegion
  refine (only_emitCaptures hagain captures _).bind fun o => ?_
  dsimp only
  split
  · rename_i cause hcause
    obtain ⟨g, hg, hrule⟩ := Option.bind_eq_some_iff.1 hr
    intro e h
    cases h
    unfold endError
    rw [hg]
    exact .template hg hrule ht hcause
  · exact only_ok _

theorem only_applyRule
    (hagain : ∀ s part start firstLine, Only sc.registry.Raises (again s part start firstLine))
    (c : Cursor) (ref : RuleRef) (m : Regex.Match) :
    Only sc.registry.Raises (sc.applyRule again line c ref m) := by
  unfold applyRule
  dsimp only
  split
  · unfold applySingle
    exact (only_emitCaptures hagain _ _).bind fun o => only_ok _
  · rename_i r hr
    split_ifs
    · exact only_ok _
    · exact only_openRegion hagain hr rfl _ c m
  · rename_i r hr
    split_ifs
    · exact only_ok _
    · exact only_openRegion hagain hr rfl _ c m
  · exact only_ok _

theorem only_step
    (hagain : ∀ s part start firstLine, Only sc.registry.Raises (again s part start firstLine))
    (c : Cursor) : Only sc.registry.Raises (sc.step again line c) := by
  rw [step_eq]
  split
  · exact only_ok _
  · exact (only_applyEnd hagain c _).map _
  · exact (only_applyRule hagain c _ _).map _

theorem only_checkWhile {P : Failure → Prop}
    (hagain : ∀ s part start firstLine, Only P (again s part start firstLine)) (fs : List Frame)
    (c : Cursor) : Only P (sc.checkWhile again line fs c) := by
  induction fs generalizing c with
  | nil => exact only_ok c
  | cons f fs ih =>
    unfold checkWhile
    dsimp only
    split
    · split
      · exact only_ok _
      · refine (only_emitCaptures hagain _ _).bind fun o => ?_
        split_ifs <;> exact ih _
    · exact ih _

end Step

section Run

variable (sc : Scanner)

/-- Captures are tokenized again by scans with fewer steps, so one induction covers the errors at
any depth. -/
theorem only_scan (n : Nat) (line : Array Char) (c : Cursor) :
    Only sc.registry.Raises (sc.scan n line c) := by
  induction n generalizing line c with
  | zero =>
    intro e h
    cases h
    exact .stepLimit
  | succ n ih =>
    have hagain : ∀ s part start firstLine,
        Only sc.registry.Raises (sc.retokenize n s part start firstLine) :=
      fun _ _ _ _ => (ih _ _).map _
    change Only _ (sc.step (sc.retokenize n) line c >>= _)
    refine (only_step hagain c).bind fun progression => ?_
    cases progression with
    | done c' => exact only_ok c'
    | more c' => exact ih line c'

theorem only_scanLine (fuel : Nat) (s : State) (line : Array Char) (firstLine : Bool) :
    Only sc.registry.Raises (sc.scanLine fuel s line firstLine) :=
  (only_checkWhile (fun _ _ _ _ => (sc.only_scan fuel _ _).map _) _ _).bind
    fun _ => sc.only_scan fuel line _

end Run

end Scanner

namespace Tokenizer

theorem only_lineTokens (t : Tokenizer) (line : List Char) (s : State) (firstLine : Bool) :
    Only t.registry.Raises (t.lineTokens line s firstLine) :=
  (t.scanner.only_scanLine stepLimit s (matchedLine line) firstLine).bind fun _ => only_ok _

theorem only_tokenizeLine (t : Tokenizer) (line : List Char) (s : State) (firstLine : Bool) :
    Only t.registry.Raises (t.tokenizeLine line s firstLine).1 := by
  rw [t.tokenizeLine_fst]
  exact t.only_lineTokens line s firstLine

theorem only_tokenizeFrom (t : Tokenizer) (s : State) (firstLine : Bool) (lines : List Line) :
    Only t.registry.Raises (t.tokenizeFrom s firstLine lines) := by
  induction lines generalizing t s firstLine with
  | nil => exact only_ok _
  | cons line lines ih =>
    rw [tokenizeFrom_cons]
    exact (t.only_tokenizeLine line.text s firstLine).bind fun p => Only.map (ih _ _ _) _

/-- A pass fails as its lines do, whatever is remembered. -/
theorem only_pass (t : Tokenizer) (s : State) (firstLine : Bool) (lines : List Line)
    (cache : List CachedLine) : Only t.registry.Raises (t.pass s firstLine lines cache).answer := by
  induction lines generalizing t s firstLine cache with
  | nil => exact only_ok _
  | cons line lines ih =>
    unfold pass
    split
    · exact (ih _ _ _ _).map _
    · have hline := t.only_tokenizeLine line.text s firstLine
      dsimp only
      split
      · rename_i e he
        intro e' h
        obtain rfl := Except.error.inj h
        exact hline e he
      · exact (ih _ _ _ _).map _

end Tokenizer

/-- There is a result, unless there is no end. -/
def Succeeds {α : Type} (x : Scan α) : Prop := x ≠ .error .stepLimit → ∃ a, x = .ok a

namespace Registry

/-- No end or while pattern refers back. -/
def BackreferenceFree (r : Registry) : Prop :=
  ∀ g ∈ r.grammars.toList, ∀ rule ∈ g.rules.toList, ∀ t, rule.template? = some t →
    t.hasBackreferences = false

theorem BackreferenceFree.eq_stepLimit {r : Registry} (hr : r.BackreferenceFree) {e : Failure}
    (h : r.Raises e) : e = .stepLimit := by
  cases h with
  | stepLimit => rfl
  | template hg hrule ht he =>
    have hg := Array.mem_toList_iff.2 (Array.mem_of_getElem? hg)
    have hrule := Array.mem_toList_iff.2 (Array.mem_of_getElem? hrule)
    have hfree := hr _ hg _ hrule _ ht
    rw [EndTemplate.hasBackreferences_of_error he] at hfree
    cases hfree

theorem BackreferenceFree.succeeds {r : Registry} (hr : r.BackreferenceFree) {α : Type}
    {x : Scan α} (hx : Only r.Raises x) : Succeeds x := by
  intro hne
  rcases x with e | a
  · rw [hr.eq_stepLimit (hx e rfl)] at hne
    exact absurd rfl hne
  · exact ⟨a, rfl⟩

theorem exists_tokenizer {r : Registry} {scope : String} (h : (r.idOf? scope).isSome) :
    ∃ t, r.tokenizer scope = .ok t := by
  unfold tokenizer tokenizerWith
  rcases hid : r.idOf? scope with _ | base
  · rw [hid] at h
    cases h
  · exact ⟨_, rfl⟩

section Documents

variable {r : Registry} {scope : String} {t : Tokenizer}

theorem only_tokenizeLines (ht : r.tokenizer scope = .ok t) (doc : String) :
    Only r.Raises (r.tokenizeLines doc scope) := by
  obtain ⟨rfl, -⟩ := registry_of_tokenizerWith ht
  unfold tokenizeLines scanTokenizer
  rw [ht]
  exact t.only_tokenizeFrom t.initialState true (linesOf doc)

theorem only_tokenize (ht : r.tokenizer scope = .ok t) (doc : String) :
    Only r.Raises (r.tokenize doc scope) :=
  (only_tokenizeLines ht doc).bind fun _ => only_ok _

theorem only_highlight (ht : r.tokenizer scope = .ok t) {h : Highlighter} (hr : h.registry = r)
    (hs : h.scope = scope) (doc : String) : Only r.Raises (h.highlight doc).1 := by
  subst hr hs
  rw [Highlighter.highlight_of_ok ht]
  obtain ⟨hregistry, -⟩ := registry_of_tokenizerWith ht
  rw [← hregistry]
  exact t.only_pass t.initialState true (linesOf doc) h.cache

end Documents

/-- Tokens cannot be made only because of patterns that refer back. Where no end or while pattern of
a registry does, every document of a registered scope has tokens, line by line, as a whole and in a
highlighter, and every scan that ends has a result, however many steps are allowed. In any registry
an error of a line names the scope of a grammar and a rule of it whose template refers back. -/
theorem fails_only_by_backreferences (r : Registry) :
    (r.BackreferenceFree →
      (∀ scope, (r.idOf? scope).isSome → ∀ doc,
        Succeeds (r.tokenizeLines doc scope) ∧ Succeeds (r.tokenize doc scope) ∧
        ∀ h : Highlighter, h.registry = r → h.scope = scope → Succeeds (h.highlight doc).1) ∧
      ∀ t : Tokenizer, t.registry = r → ∀ fuel s line firstLine,
        Succeeds (t.scanner.scanLine fuel s line firstLine)) ∧
    ∀ t : Tokenizer, t.registry = r → ∀ line s firstLine e,
      (t.tokenizeLine line s firstLine).1 = .error e → e ≠ .stepLimit →
      ∃ id g ref rule template cause, r.grammar? id = some g ∧ g.rule? ref = some rule ∧
        rule.template? = some template ∧ template.hasBackreferences = true ∧
        e = .grammar (.invalidPattern g.scope ("rule " ++ toString ref ++ " end") cause) := by
  refine ⟨fun hfree => ⟨fun scope hscope doc => ?_, fun t ht fuel s line firstLine => ?_⟩, ?_⟩
  · obtain ⟨t, ht⟩ := exists_tokenizer hscope
    refine ⟨hfree.succeeds (only_tokenizeLines ht doc), hfree.succeeds (only_tokenize ht doc), ?_⟩
    exact fun h hr hs => hfree.succeeds (only_highlight ht hr hs doc)
  · subst ht
    exact hfree.succeeds (t.scanner.only_scanLine fuel s line firstLine)
  · intro t ht line s firstLine e he hne
    have hraises := t.only_tokenizeLine line s firstLine e he
    rw [ht] at hraises
    cases hraises with
    | stepLimit => exact absurd rfl hne
    | template hg hrule htemplate hcause =>
      exact ⟨_, _, _, _, _, _, hg, hrule, htemplate,
        EndTemplate.hasBackreferences_of_error hcause, rfl⟩

/-- A document without references back, and a line that opens a region whose end pattern would be
`[a-0]`. -/
theorem fails_by_end_of_sample :
    zeroWidthRegistry.BackreferenceFree ∧ (zeroWidthRegistry.idOf? "source.zero").isSome ∧
    zeroWidthRegistry.tokenize "abcab" "source.zero" ≠ .error .stepLimit ∧
    (∃ tokens, zeroWidthRegistry.tokenize "abcab" "source.zero" = .ok tokens) ∧
    ∃ (t : Tokenizer) (e : Failure), t.registry = sampleRegistry ∧
      (t.tokenizeLine "x0".toList t.initialState true).1 = .error e ∧ e ≠ .stepLimit ∧
      ∃ id g ref rule template cause, sampleRegistry.grammar? id = some g ∧
        g.rule? ref = some rule ∧ rule.template? = some template ∧
        template.hasBackreferences = true ∧
        e = .grammar (.invalidPattern g.scope ("rule " ++ toString ref ++ " end") cause) := by
  have hfree : zeroWidthRegistry.BackreferenceFree := by
    have hrules : ∀ g ∈ zeroWidthRegistry.grammars.toList, ∀ rule ∈ g.rules.toList,
        rule.template?.all (!·.hasBackreferences) = true := by decide +kernel
    intro g hg rule hrule t ht
    have := hrules g hg rule hrule
    rwa [ht, Option.all_some, Bool.not_eq_true'] at this
  have hscope : (zeroWidthRegistry.idOf? "source.zero").isSome := by decide +kernel
  have hends : zeroWidthRegistry.tokenize "abcab" "source.zero" ≠ .error .stepLimit := by
    decide +kernel
  have hfails : (sampleRegistry.tokenizer "source.sample").toOption.any (fun t =>
      (t.tokenizeLine "x0".toList t.initialState true).1 matches .error (.grammar _)) = true := by
    decide +kernel
  refine ⟨hfree, hscope, hends, ?_, ?_⟩
  · exact (((fails_only_by_backreferences _).1 hfree).1 _ hscope _).2.1 hends
  · obtain ⟨t, ht, hfails⟩ := exists_ok_of_any hfails
    have hregistry := (registry_of_tokenizerWith ht).1
    split at hfails
    · rename_i cause hline
      exact ⟨t, _, hregistry, hline, by simp,
        (fails_only_by_backreferences _).2 t hregistry _ _ _ _ hline (by simp)⟩
    · cases hfails

end Registry

end Scopelight
