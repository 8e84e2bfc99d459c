import Mathlib.Data.List.Basic
import Scopelight.Text.Word

/-!
# Pieces and words

Where a separator ends one text or begins the other, two texts are cut into pieces for themselves
(`filterMap_splitAt_append_of_getLast`, `filterMap_splitAt_append_of_head`). So the words on both
sides of blanks are read for themselves (`words_append_blanks`), and one behind another the words of
a text are the text without its blanks (`flatten_words`).
-/

namespace Scopelight.Text

theorem exists_run_of_memRuns {n : Nat} {runs : List Run} (h : memRuns n runs = true) :
    ∃ r ∈ runs, r.lo ≤ n ∧ n ≤ r.hi := by
  induction runs with
  | nil => cases h
  | cons r runs ih =>
    rw [memRuns] at h
    split at h
    · cases h
    · rcases Bool.or_eq_true_iff.1 h with hr | hruns
      · simp only [Run.has, Bool.and_eq_true, decide_eq_true_eq] at hr
        exact ⟨r, List.mem_cons_self, hr.1⟩
      · obtain ⟨s, hs, hn⟩ := ih hruns
        exact ⟨s, List.mem_cons_of_mem _ hs, hn⟩

/-- Blanks are no digits: the runs of the one lie apart from the runs of the other. -/
theorem isBlank_eq_false_of_digit {c : Char} (h : isDecimalDigit c = true) : isBlank c = false := by
  obtain ⟨d, hd, hlo, hhi⟩ := exists_run_of_memRuns h
  have hascii : ∀ d ∈ decimalDigit, 0x30 ≤ d.lo ∧ (d.hi < 0x85 ∨ 0x85 < d.lo) := by decide
  have hapart : ∀ d ∈ decimalDigit,
      ∀ s ∈ spaceSeparator ++ lineSeparator ++ paragraphSeparator, d.hi < s.lo ∨ s.hi < d.lo := by
    decide
  have hspace : c ≠ ' ' := by
    rintro rfl
    exact absurd h (by decide)
  have htables : inAny c [spaceSeparator, lineSeparator, paragraphSeparator] = false := by
    rw [inAny, List.any_eq_false]
    intro runs hruns hmem
    obtain ⟨s, hs, hslo, hshi⟩ := exists_run_of_memRuns hmem
    have hs' : s ∈ spaceSeparator ++ lineSeparator ++ paragraphSeparator := by
      simp only [List.mem_cons, List.not_mem_nil, or_false] at hruns
      rcases hruns with rfl | rfl | rfl <;> simp [hs]
    have := hapart d hd s hs'
    omega
  have hcontrol : (0x09 ≤ c.toNat → 0x0d < c.toNat) ∧ c.toNat ≠ 0x85 := by
    have := hascii d hd
    omega
  simpa [isBlank, htables, hspace] using hcontrol

theorem splitAt_eq_splitOnP (p : Char → Bool) (cs : List Char) : splitAt p cs = cs.splitOnP p := by
  induction cs with
  | nil => rfl
  | cons c cs ih =>
    rw [splitAt, List.splitOnP_cons_eq_if_modifyHead, ih]
    obtain ⟨piece, pieces, hpieces⟩ := List.exists_cons_of_ne_nil (List.splitOnP_ne_nil p cs)
    rw [hpieces]
    rfl

section Pieces

variable {p : Char → Bool} {β : Type} {f : List Char → Option β} {c : Char}
  {cs ds blanks : List Char}

theorem splitAt_append_cons (hc : p c = true) (cs ds : List Char) :
    splitAt p (cs ++ c :: ds) = splitAt p cs ++ splitAt p ds := by
  simp only [splitAt_eq_splitOnP, List.splitOnP_append_cons _ _ hc]

theorem splitAt_of_none (h : ∀ c ∈ cs, p c = false) : splitAt p cs = [cs] := by
  rw [splitAt_eq_splitOnP, List.splitOnP_eq_singleton h]

/-- Behind a separator the pieces begin anew, if empty ones do not count. -/
theorem filterMap_splitAt_append_of_getLast (hf : f [] = none)
    (h : ∀ c ∈ cs.getLast?, p c = true) (ds : List Char) :
    (splitAt p (cs ++ ds)).filterMap f =
      (splitAt p cs).filterMap f ++ (splitAt p ds).filterMap f := by
  rcases cs.eq_nil_or_concat with rfl | ⟨init, c, rfl⟩
  · simp [splitAt, hf]
  · rw [List.concat_eq_append] at h ⊢
    have hc := h c (by simp)
    rw [List.append_assoc, List.singleton_append, splitAt_append_cons hc, splitAt_append_cons hc]
    simp [splitAt, hf]

theorem filterMap_splitAt_append_of_head (hf : f [] = none) (cs : List Char)
    (h : ∀ c ∈ ds.head?, p c = true) :
    (splitAt p (cs ++ ds)).filterMap f =
      (splitAt p cs).filterMap f ++ (splitAt p ds).filterMap f := by
  cases ds with
  | nil => simp [splitAt, hf]
  | cons c ds =>
    have hc := h c rfl
    rw [splitAt_append_cons hc, splitAt, if_pos hc]
    simp [hf]

theorem words_eq (cs : List Char) :
    words cs = (splitAt isBlank cs).filterMap (Option.guard (!·.isEmpty)) := by
  rw [words, List.filterMap_eq_filter]

theorem words_append_of_getLast (h : ∀ c ∈ cs.getLast?, isBlank c = true) (ds : List Char) :
    words (cs ++ ds) = words cs ++ words ds := by
  simp only [words_eq]
  exact filterMap_splitAt_append_of_getLast rfl h ds

theorem words_append_of_head (cs : List Char) (h : ∀ c ∈ ds.head?, isBlank c = true) :
    words (cs ++ ds) = words cs ++ words ds := by
  simp only [words_eq]
  exact filterMap_splitAt_append_of_head rfl cs h

theorem words_of_no_blank (hne : cs ≠ []) (h : ∀ c ∈ cs, isBlank c = false) : words cs = [cs] := by
  rw [words, splitAt_of_none h]
  simpa using hne

theorem words_of_blank (h : ∀ c ∈ blanks, isBlank c = true) : words blanks = [] := by
  induction blanks with
  | nil => rfl
  | cons c blanks ih =>
    have hc := h c List.mem_cons_self
    rw [← List.singleton_append, words_append_of_getLast (by simpa using hc),
      ih fun d hd => h d (List.mem_cons_of_mem _ hd), List.append_nil]
    simp [words, splitAt, hc]

theorem words_append_blanks (hne : blanks ≠ []) (h : ∀ c ∈ blanks, isBlank c = true)
    (cs ds : List Char) : words (cs ++ (blanks ++ ds)) = words cs ++ words ds := by
  have hhead : ∀ c ∈ (blanks ++ ds).head?, isBlank c = true := fun c hc => by
    rw [List.head?_append_of_ne_nil _ hne] at hc
    exact h c (List.mem_of_mem_head? hc)
  rw [words_append_of_head cs hhead,
    words_append_of_getLast (fun c hc => h c (List.mem_of_mem_getLast? hc)), words_of_blank h,
    List.nil_append]

theorem flatten_splitAt (cs : List Char) :
    (splitAt p cs).flatten = cs.filter fun c => !p c := by
  rw [splitAt_eq_splitOnP]
  induction cs with
  | nil => rfl
  | cons c cs ih =>
    rw [List.splitOnP_cons_eq_if_modifyHead]
    by_cases hc : p c = true
    · simpa [hc] using ih
    · obtain ⟨piece, pieces, hpieces⟩ := List.exists_cons_of_ne_nil (List.splitOnP_ne_nil p cs)
      rw [hpieces] at ih ⊢
      simpa [hc] using ih

theorem flatten_words (cs : List Char) : (words cs).flatten = cs.filter fun c => !isBlank c := by
  unfold words
  rw [List.flatten_filter_not_isEmpty, flatten_splitAt]

end Pieces

end Scopelight.Text
