import Mathlib.Data.Finset.Card
import Scopelight.Proofs.Highlighter
import Scopelight.Proofs.Locality

/-!
# What is tokenized again

A pass that succeeds leaves the lines of its document in the cache and nothing else, whatever was
there before (`records_of_pass`). So the next pass tokenizes the lines that the document did not have
at their places, with their text and in their state (`pass_retokenized`). Where the state is the same
again and the lines behind it are too, nothing more is tokenized (`same_of_rejoin`).
-/

namespace Scopelight

open Text

theorem countP_range_add_one (p : Nat → Bool) (n : Nat) :
    (List.range (n + 1)).countP p =
      (List.range n).countP (fun i => p (i + 1)) + if p 0 then 1 else 0 := by
  rw [List.range_succ_eq_map, List.countP_cons, List.countP_map]
  rfl

theorem countP_range_le {p : Nat → Bool} {n k : Nat} (h : ∀ i, k ≤ i → i < n → p i = false) :
    (List.range n).countP p ≤ k := by
  have hsubset : (List.range n).filter p ⊆ List.range k := by
    intro i hi
    obtain ⟨hi, hp⟩ := List.mem_filter.1 hi
    by_contra hk
    rw [h i (by simpa using hk) (List.mem_range.1 hi)] at hp
    cases hp
  have hnodup : ((List.range n).filter p).Nodup := List.nodup_range.filter p
  simpa [List.countP_eq_length_filter] using hnodup.length_le_of_subset hsubset

namespace Tokenizer

/-- The cache holds these lines, with the states that they lead through, and nothing else. -/
def Records (t : Tokenizer) : State → Bool → List Line → List CachedLine → Prop
  | _, _, [], cache => cache = []
  | _, _, _ :: _, [] => False
  | s, firstLine, line :: lines, c :: cache =>
    c.text = line.text ∧ c.start = s ∧
      t.lineTokens line.text s firstLine = .ok (c.tokens, c.stop) ∧
      t.Records c.stop false lines cache

/-- At this place two documents, begun in these states, do not have lines of the same text in the same
state; one that has no line there has no text either. -/
def LineDiffers (t : Tokenizer) (s₁ s₂ : State) (firstLine : Bool) (lines₁ lines₂ : List Line)
    (i : Nat) : Prop :=
  lines₁[i]?.map Line.text ≠ lines₂[i]?.map Line.text ∨
    t.stateAfter s₁ firstLine (lines₁.take i) ≠ t.stateAfter s₂ firstLine (lines₂.take i)

instance (t : Tokenizer) (s₁ s₂ : State) (firstLine : Bool) (lines₁ lines₂ : List Line) :
    DecidablePred (t.LineDiffers s₁ s₂ firstLine lines₁ lines₂) :=
  fun _ => inferInstanceAs (Decidable (_ ∨ _))

section Reuse

variable {t : Tokenizer} {s s₁ s₂ next next₁ next₂ : State} {firstLine : Bool}
  {line line₁ line₂ : Line} {lines lines₁ lines₂ : List Line} {cache : List CachedLine}
  {tokens tokens₁ tokens₂ : List Token}

theorem exists_answer_of_cons {p : Pass} {offset : Nat} {c : CachedLine} {fresh : Bool}
    (h : (p.cons offset c fresh).answer = .ok tokens) : ∃ behind, p.answer = .ok behind := by
  obtain ⟨behind, hbehind, -⟩ := map_ok_iff.1 h
  exact ⟨behind, hbehind⟩

/-- A pass that succeeds either takes its first line over or tokenizes it. -/
theorem pass_cons_cases (ht : t.Truthful)
    (h : (t.pass s firstLine (line :: lines) cache).answer = .ok tokens) :
    (∃ c, cache.head?.filter (·.fits line.text s) = some c ∧
      t.pass s firstLine (line :: lines) cache =
        (t.pass c.stop false lines (cache.drop 1)).cons line.offset c false) ∨
    ∃ now next, cache.head?.filter (·.fits line.text s) = none ∧
      t.forget.lineTokens line.text s firstLine = .ok (now, next) ∧
      t.pass s firstLine (line :: lines) cache =
        ((t.tokenizeLine line.text s firstLine).2.pass next false lines (cache.drop 1)).cons
          line.offset ⟨line.text, s, next, now⟩ true := by
  rcases hfit : cache.head?.filter (·.fits line.text s) with _ | c
  · rcases hl : t.forget.lineTokens line.text s firstLine with e | ⟨now, next⟩
    · rw [pass_of_error ht hfit hl] at h
      cases h
    · exact .inr ⟨now, next, hfit, rfl, pass_of_ok ht hfit hl⟩
  · exact .inl ⟨c, hfit, pass_of_fits hfit⟩

theorem records_of_pass (ht : t.Truthful) (hc : t.forget.Knows firstLine cache)
    (h : (t.pass s firstLine lines cache).answer = .ok tokens) :
    t.forget.Records s firstLine lines (t.pass s firstLine lines cache).cache := by
  induction lines generalizing t s firstLine cache tokens with
  | nil => rfl
  | cons line lines ih =>
    rcases pass_cons_cases ht h with ⟨c, hfit, heq⟩ | ⟨now, next, -, hl, heq⟩
    · rw [heq] at h ⊢
      obtain ⟨htext, hstart⟩ := CachedLine.of_fits hfit
      obtain ⟨behind, hbehind⟩ := exists_answer_of_cons h
      exact ⟨htext, hstart, hc.lineTokens_of_fits hfit, ih ht hc.tail hbehind⟩
    · rw [heq] at h ⊢
      obtain ⟨behind, hbehind⟩ := exists_answer_of_cons h
      have hrest := ih (ht.tokenizeLine line.text s firstLine) hc.tail hbehind
      rw [forget_tokenizeLine] at hrest
      exact ⟨rfl, rfl, hl, hrest⟩

theorem lineDiffers_zero : t.LineDiffers s₁ s₂ firstLine (line₁ :: lines₁) (line₂ :: lines₂) 0 ↔
    line₁.text ≠ line₂.text ∨ s₁ ≠ s₂ := by
  simp [LineDiffers, stateAfter]

theorem lineDiffers_succ
    (h₁ : t.forget.lineTokens line₁.text s₁ firstLine = .ok (tokens₁, next₁))
    (h₂ : t.forget.lineTokens line₂.text s₂ firstLine = .ok (tokens₂, next₂)) (i : Nat) :
    t.forget.LineDiffers s₁ s₂ firstLine (line₁ :: lines₁) (line₂ :: lines₂) (i + 1) ↔
      t.forget.LineDiffers next₁ next₂ false lines₁ lines₂ i := by
  simp [LineDiffers, stateAfter_of_ok h₁, stateAfter_of_ok h₂]

theorem lineDiffers_of_nil {i : Nat} (hi : i < lines.length) :
    t.LineDiffers s₁ s₂ firstLine [] lines i := by
  simp [LineDiffers, List.getElem?_eq_getElem hi]

theorem pass_nil_retokenized (ht : t.Truthful)
    (h : (t.pass s firstLine lines []).answer = .ok tokens) :
    (t.pass s firstLine lines []).retokenized = lines.length := by
  induction lines generalizing t s firstLine tokens with
  | nil => rfl
  | cons line lines ih =>
    rcases pass_cons_cases ht h with ⟨c, hfit, -⟩ | ⟨now, next, -, -, heq⟩
    · simp at hfit
    · rw [heq] at h ⊢
      obtain ⟨behind, hbehind⟩ := exists_answer_of_cons h
      have hrest := ih (ht.tokenizeLine line.text s firstLine) hbehind
      simp [Pass.cons, hrest]

/-- A pass over the lines of one document, with those of another remembered, tokenizes the lines that
differ. -/
theorem pass_retokenized (ht : t.Truthful) (hc : t.forget.Records s₁ firstLine lines₁ cache)
    (h : (t.pass s₂ firstLine lines₂ cache).answer = .ok tokens) :
    (t.pass s₂ firstLine lines₂ cache).retokenized =
      (List.range lines₂.length).countP
        fun i => t.forget.LineDiffers s₁ s₂ firstLine lines₁ lines₂ i := by
  induction lines₂ generalizing t s₁ s₂ firstLine lines₁ cache tokens with
  | nil => rfl
  | cons line₂ lines₂ ih =>
    rcases lines₁ with _ | ⟨line₁, lines₁⟩
    · obtain rfl : cache = [] := hc
      rw [pass_nil_retokenized ht h, List.countP_eq_length.2, List.length_range]
      intro i hi
      simp only [List.mem_range] at hi
      simp [lineDiffers_of_nil hi]
    rcases cache with _ | ⟨c₁, cache⟩
    · exact hc.elim
    obtain ⟨htext, hstart, hl₁, hc⟩ := hc
    rw [List.length_cons, countP_range_add_one]
    rcases pass_cons_cases ht h with ⟨c, hfit, heq⟩ | ⟨now, next, hnew, hl₂, heq⟩
    · rw [heq] at h ⊢
      obtain ⟨htext', hstart'⟩ := CachedLine.of_fits hfit
      obtain rfl : c₁ = c := by simpa using (Option.filter_eq_some_iff.1 hfit).1
      have hl₂ : t.forget.lineTokens line₂.text s₂ firstLine = .ok (c₁.tokens, c₁.stop) := by
        rw [← htext', ← hstart', htext, hstart, hl₁]
      have hsame : ¬ t.forget.LineDiffers s₁ s₂ firstLine (line₁ :: lines₁) (line₂ :: lines₂) 0 := by
        rw [lineDiffers_zero, ← htext, ← hstart]
        simp [htext', hstart']
      obtain ⟨behind, hbehind⟩ := exists_answer_of_cons h
      have hrest := ih ht hc hbehind
      simp only [lineDiffers_succ hl₁ hl₂, hsame]
      simpa [Pass.cons] using hrest
    · rw [heq] at h ⊢
      have hdiffers : t.forget.LineDiffers s₁ s₂ firstLine (line₁ :: lines₁) (line₂ :: lines₂) 0 := by
        rw [lineDiffers_zero, ← htext, ← hstart]
        simpa [CachedLine.fits, imp_iff_not_or] using Option.filter_eq_none_iff.1 hnew c₁ rfl
      obtain ⟨behind, hbehind⟩ := exists_answer_of_cons h
      have hrest := ih (ht.tokenizeLine line₂.text s₂ firstLine) hc hbehind
      rw [forget_tokenizeLine] at hrest
      simp only [lineDiffers_succ hl₁ hl₂, hdiffers]
      simpa [Pass.cons] using hrest

theorem stateAfter_concat (s : State) (firstLine : Bool) (lines : List Line) (line : Line) :
    t.forget.stateAfter s firstLine (lines ++ [line]) =
      t.forget.stateAfter s firstLine lines >>= fun last =>
        Prod.snd <$> t.forget.lineTokens line.text last (firstLine && lines.isEmpty) := by
  induction lines generalizing s firstLine with
  | nil =>
    rw [List.nil_append, stateAfter_cons, List.isEmpty_nil, Bool.and_true]
    change _ = Prod.snd <$> t.forget.lineTokens line.text s firstLine
    rw [map_eq_pure_bind]
    rfl
  | cons first lines ih =>
    simp only [List.cons_append, stateAfter_cons, ih, bind_assoc, Bool.false_and, List.isEmpty_cons,
      Bool.and_false]

theorem stateAfter_take_add_one {i : Nat} (h : lines[i]? = some line) :
    t.forget.stateAfter s firstLine (lines.take (i + 1)) =
      t.forget.stateAfter s firstLine (lines.take i) >>= fun last =>
        Prod.snd <$> t.forget.lineTokens line.text last (firstLine && i == 0) := by
  obtain ⟨hi, -⟩ := List.getElem?_eq_some_iff.1 h
  have hempty : (lines.take i).isEmpty = (i == 0) := by
    rw [Bool.eq_iff_iff, List.isEmpty_iff, List.take_eq_nil_iff, beq_iff_eq]
    refine or_iff_left fun hnil => ?_
    simp [hnil] at hi
  rw [List.take_add_one, h, Option.toList_some, stateAfter_concat, hempty]

/-- Behind a place where the state is the same again no line differs if none has another text. -/
theorem same_of_rejoin {k : Nat}
    (htext : ∀ i, k ≤ i → i < lines₂.length → lines₁[i]?.map Line.text = lines₂[i]?.map Line.text)
    (hstate : t.forget.stateAfter s₁ firstLine (lines₁.take k) =
      t.forget.stateAfter s₂ firstLine (lines₂.take k))
    {i : Nat} (hk : k ≤ i) (hi : i < lines₂.length) :
    ¬ t.forget.LineDiffers s₁ s₂ firstLine lines₁ lines₂ i := by
  have hstates : t.forget.stateAfter s₁ firstLine (lines₁.take i) =
      t.forget.stateAfter s₂ firstLine (lines₂.take i) := by
    induction hk with
    | refl => exact hstate
    | @step i hk ih =>
      have hsame := htext i hk (by omega)
      rw [List.getElem?_eq_getElem (by omega : i < lines₂.length), Option.map_some] at hsame
      obtain ⟨line, hline, hsame⟩ := Option.map_eq_some_iff.1 hsame
      rw [stateAfter_take_add_one hline, hsame, ih (by omega),
        stateAfter_take_add_one (List.getElem?_eq_getElem (by omega))]
  simp [LineDiffers, htext i hk hi, hstates]

end Reuse

end Tokenizer

namespace Highlighter

section Retokenized

variable {h : Highlighter} {t : Tokenizer} {doc₁ doc₂ : String} {tokens₁ tokens₂ : List Token}

theorem Sound.retokenized_eq (hs : h.Sound) (ht : h.registry.tokenizer h.scope = .ok t)
    (h₁ : (h.highlight doc₁).1 = .ok tokens₁)
    (h₂ : ((h.highlight doc₁).2.highlight doc₂).1 = .ok tokens₂) :
    ((h.highlight doc₁).2.highlight doc₂).2.retokenized =
      (List.range (linesOf doc₂).length).countP fun i =>
        t.LineDiffers t.initialState t.initialState true (linesOf doc₁) (linesOf doc₂) i := by
  have hf := Registry.forget_of_tokenizerWith ht
  have htruthful := Registry.truthful_of_tokenizerWith ht
  have hknows : t.forget.Knows true h.cache := by
    rw [hf]
    exact hs t ht
  have hrecords : t.forget.Records t.initialState true (linesOf doc₁) (h.highlight doc₁).2.cache := by
    rw [highlight_of_ok ht] at h₁ ⊢
    exact Tokenizer.records_of_pass htruthful hknows h₁
  obtain ⟨hregistry, hscope⟩ := highlight_registry_scope h doc₁
  rw [← hregistry, ← hscope] at ht
  rw [highlight_of_ok ht] at h₂ ⊢
  have hcount := Tokenizer.pass_retokenized htruthful hrecords h₂
  rwa [hf] at hcount

theorem sound_of_create {registry : Registry} {scope : String}
    (hc : create registry scope = .ok h) (ops : List Operation) :
    (ops.foldl perform h).Sound ∧ (ops.foldl perform h).scope = scope ∧
      (ops.foldl perform h).registry = registryAfter scope registry ops := by
  unfold create at hc
  split_ifs at hc
  obtain rfl := Except.ok.inj hc
  have hnew : Sound ⟨registry, scope, [], 0⟩ := sound_of_cache_nil rfl
  exact hnew.foldl_perform ops

/-- Whatever was done with a highlighter before, a pass that follows upon one of another document
tokenizes the lines that the other document did not have at their places with their text and in their
state, where states are those that tokenizing each document once leads through. Nothing is tokenized
for the same document, and nothing behind a place where the state is the same again and no text
differs any more. -/
theorem retokenized_eq_countP {registry : Registry} {scope : String}
    (hc : create registry scope = .ok h) (ops : List Operation)
    (h₁ : ((ops.foldl perform h).highlight doc₁).1 = .ok tokens₁)
    (h₂ : (((ops.foldl perform h).highlight doc₁).2.highlight doc₂).1 = .ok tokens₂) :
    let retokenized := (((ops.foldl perform h).highlight doc₁).2.highlight doc₂).2.retokenized
    ∃ t, (registryAfter scope registry ops).tokenizer scope = .ok t ∧
      retokenized = (List.range (linesOf doc₂).length).countP
        (fun i => t.LineDiffers t.initialState t.initialState true (linesOf doc₁) (linesOf doc₂) i) ∧
      (doc₁ = doc₂ → retokenized = 0) ∧
      ∀ k, (∀ i, k ≤ i → i < (linesOf doc₂).length →
          (linesOf doc₁)[i]?.map Line.text = (linesOf doc₂)[i]?.map Line.text) →
        t.stateAfter t.initialState true ((linesOf doc₁).take k) =
          t.stateAfter t.initialState true ((linesOf doc₂).take k) →
        retokenized ≤ k ∧ ∀ i, k ≤ i → i < (linesOf doc₂).length →
          ¬ t.LineDiffers t.initialState t.initialState true (linesOf doc₁) (linesOf doc₂) i := by
  obtain ⟨hsound, hscope, hregistry⟩ := sound_of_create hc ops
  generalize ops.foldl perform h = now at h₁ h₂ hsound hscope hregistry ⊢
  intro retokenized
  rw [← hregistry, ← hscope]
  rcases ht : now.registry.tokenizer now.scope with e | t
  · rw [highlight_of_error ht] at h₁
    cases h₁
  have hcount : retokenized = _ := hsound.retokenized_eq ht h₁ h₂
  refine ⟨t, rfl, hcount, ?_, ?_⟩
  · rintro rfl
    rw [hcount, List.countP_eq_zero]
    simp [Tokenizer.LineDiffers]
  · intro k htext hstate
    have hsame : ∀ i, k ≤ i → i < (linesOf doc₂).length →
        ¬ t.LineDiffers t.initialState t.initialState true (linesOf doc₁) (linesOf doc₂) i := by
      intro i hk hi
      have hf := Registry.forget_of_tokenizerWith ht
      rw [← hf] at hstate ⊢
      exact Tokenizer.same_of_rejoin htext hstate hk hi
    refine ⟨?_, hsame⟩
    rw [hcount]
    refine countP_range_le fun i hk hi => ?_
    simp [hsame i hk hi]

/-- A document with a group over three lines. -/
def groupedDoc : String := "(a\nb\n)\nc\nd=1\n"

/-- The same without the start of the group. -/
def ungroupedDoc : String := "a\nb\n)\nc\nd=1\n"

/-- An edit of the first line is felt up to the end of the group, and the two lines behind it are taken
over. -/
theorem rest_reused_behind_group :
    ∃ h t tokens₁ tokens₂, create sampleRegistry "source.sample" = .ok h ∧
      sampleRegistry.tokenizer "source.sample" = .ok t ∧
      let now := [Operation.highlight "(1\nx0\n)"].foldl perform h
      (now.highlight groupedDoc).1 = .ok tokens₁ ∧
      ((now.highlight groupedDoc).2.highlight ungroupedDoc).1 = .ok tokens₂ ∧
      ((now.highlight groupedDoc).2.highlight ungroupedDoc).2.retokenized = 3 ∧
      (List.range 5).countP (fun i => t.LineDiffers t.initialState t.initialState true
        (linesOf groupedDoc) (linesOf ungroupedDoc) i) = 3 ∧
      ∀ i, 3 ≤ i → i < 5 → ¬ t.LineDiffers t.initialState t.initialState true
        (linesOf groupedDoc) (linesOf ungroupedDoc) i := by
  have hrun : (create sampleRegistry "source.sample").toOption.any (fun h =>
      (sampleRegistry.tokenizer "source.sample").toOption.any fun t =>
        let now := [Operation.highlight "(1\nx0\n)"].foldl perform h
        (now.highlight groupedDoc).1.toOption.any fun _ =>
          ((now.highlight groupedDoc).2.highlight ungroupedDoc).1.toOption.any fun _ =>
            ((now.highlight groupedDoc).2.highlight ungroupedDoc).2.retokenized == 3 &&
              t.stateAfter t.initialState true ((linesOf groupedDoc).take 3) ==
                t.stateAfter t.initialState true ((linesOf ungroupedDoc).take 3)) = true := by
    decide +kernel
  obtain ⟨h, hh, hrun⟩ := exists_ok_of_any hrun
  obtain ⟨t, ht, hrun⟩ := exists_ok_of_any hrun
  obtain ⟨tokens₁, h₁, hrun⟩ := exists_ok_of_any hrun
  obtain ⟨tokens₂, h₂, hrun⟩ := exists_ok_of_any hrun
  simp only [Bool.and_eq_true, beq_iff_eq] at hrun
  obtain ⟨hthree, hstate⟩ := hrun
  obtain ⟨t', ht', hcount, -, hrest⟩ := retokenized_eq_countP hh [.highlight "(1\nx0\n)"] h₁ h₂
  obtain rfl : t = t' := Except.ok.inj (ht.symm.trans ht')
  have hlength : (linesOf ungroupedDoc).length = 5 := by decide +kernel
  have htext : ∀ i, 3 ≤ i → i < 5 →
      (linesOf groupedDoc)[i]?.map Line.text = (linesOf ungroupedDoc)[i]?.map Line.text := by
    decide +kernel
  rw [hlength] at hcount hrest
  exact ⟨h, t, tokens₁, tokens₂, hh, ht, h₁, h₂, hthree, hcount.symm.trans hthree,
    (hrest 3 htext hstate).2⟩

end Retokenized

end Highlighter

end Scopelight
