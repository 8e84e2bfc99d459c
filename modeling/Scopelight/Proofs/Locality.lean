import Scopelight.Proofs.Lines
import Scopelight.Proofs.Memory
import Scopelight.Proofs.Step

/-!
# Later text does not show

A document that is cut behind a line feed falls into the lines of its two parts
(`linesOf_append`). The lines before the cut are tokenized as if nothing came behind them, and those
behind it from the state that the lines before it lead to (`tokenizeFrom_append`). So what was
highlighted stays as it is when text is added below, and so does an error (`tokenize_append`); the
tokens of the lines below begin and end as many bytes later as there is text before them.
-/

namespace Scopelight

open Text

namespace Text

/-- No line is left unfinished. -/
def WholeLines (cs : List Char) : Prop := cs = [] ∨ cs.getLast? = some '\n'

theorem WholeLines.tail {c : Char} {cs : List Char} (h : WholeLines (c :: cs)) : WholeLines cs := by
  rcases cs with _ | ⟨d, ds⟩
  · exact .inl rfl
  · simpa [WholeLines] using h

theorem cutLines_ne_nil {cs : List Char} (h : cs ≠ []) : cutLines cs ≠ [] := by
  intro hnil
  apply h
  rw [← flatten_cutLines cs, hnil, List.flatten_nil]

theorem cutLines_append {cs : List Char} (h : WholeLines cs) (ds : List Char) :
    cutLines (cs ++ ds) = cutLines cs ++ cutLines ds := by
  induction cs with
  | nil => rfl
  | cons c cs ih =>
    rw [List.cons_append]
    by_cases hc : c = '\n'
    · simp [cutLines, hc, ih h.tail]
    · have hcs : cs ≠ [] := by
        rintro rfl
        simp [WholeLines, hc] at h
      obtain ⟨line, lines, hlines⟩ := List.exists_cons_of_ne_nil (cutLines_ne_nil hcs)
      simp [cutLines, hc, ih h.tail, hlines]

theorem withOffsets_append (offset : Nat) (ps qs : List (List Char)) :
    withOffsets offset (ps ++ qs) =
      withOffsets offset ps ++ withOffsets (offset + byteLength ps.flatten) qs := by
  induction ps generalizing offset with
  | nil => rfl
  | cons p ps ih =>
    simp [withOffsets, ih, byteLength_append, Nat.add_assoc]

theorem linesOf_append {a : String} (h : WholeLines a.toList) (b : String) :
    linesOf (a ++ b) = linesOf a ++ withOffsets (byteLength a.toList) (cutLines b.toList) := by
  unfold linesOf
  rw [String.toList_append, cutLines_append h, withOffsets_append, flatten_cutLines, Nat.zero_add]

theorem isEmpty_withOffsets (offset : Nat) (ps : List (List Char)) :
    (withOffsets offset ps).isEmpty = ps.isEmpty := by
  cases ps <;> rfl

theorem isEmpty_linesOf (doc : String) : (linesOf doc).isEmpty = doc.toList.isEmpty := by
  unfold linesOf
  rw [isEmpty_withOffsets]
  rcases h : doc.toList with _ | ⟨c, cs⟩
  · rfl
  · rw [List.isEmpty_cons, List.isEmpty_eq_false_iff]
    exact cutLines_ne_nil (List.cons_ne_nil c cs)

end Text

namespace Tokenizer

/-- The state that some lines lead to, or the error of the first that fails. -/
def stateAfter (t : Tokenizer) (s : State) (firstLine : Bool) : List Line → Scan State
  | [] => .ok s
  | line :: lines => do
    let (answer, t) := t.tokenizeLine line.text s firstLine
    let (_, next) ← answer
    t.stateAfter next false lines

section Append

variable {t : Tokenizer} {s last : State} {firstLine : Bool} {line : Line} {lines : List Line}

theorem Truthful.stateAfter_eq (ht : t.Truthful) (s : State) (firstLine : Bool)
    (lines : List Line) : t.stateAfter s firstLine lines = t.forget.stateAfter s firstLine lines := by
  induction lines generalizing t s firstLine with
  | nil => rfl
  | cons line lines ih =>
    have hf := truthful_forget t
    have hcons : ∀ u : Tokenizer, u.stateAfter s firstLine (line :: lines) =
        (u.tokenizeLine line.text s firstLine).1 >>= fun p =>
          (u.tokenizeLine line.text s firstLine).2.stateAfter p.2 false lines := fun u => rfl
    rw [hcons, hcons, ht.tokenizeLine_fst, hf.tokenizeLine_fst, forget_forget]
    congr 1
    funext p
    rw [ih (ht.tokenizeLine _ _ _), ih (hf.tokenizeLine _ _ _), forget_tokenizeLine,
      forget_tokenizeLine, forget_forget]

theorem stateAfter_cons (t : Tokenizer) (s : State) (firstLine : Bool) (line : Line)
    (lines : List Line) :
    t.forget.stateAfter s firstLine (line :: lines) =
      t.forget.lineTokens line.text s firstLine >>= fun p =>
        t.forget.stateAfter p.2 false lines := by
  have hf := truthful_forget t
  change (t.forget.tokenizeLine line.text s firstLine).1 >>= (fun p =>
    (t.forget.tokenizeLine line.text s firstLine).2.stateAfter p.2 false lines) = _
  rw [hf.tokenizeLine_fst, forget_forget]
  congr 1
  funext p
  rw [(hf.tokenizeLine _ _ _).stateAfter_eq, forget_tokenizeLine, forget_forget]

theorem stateAfter_of_ok {tokens : List Token} {next : State}
    (hl : t.forget.lineTokens line.text s firstLine = .ok (tokens, next)) (lines : List Line) :
    t.forget.stateAfter s firstLine (line :: lines) = t.forget.stateAfter next false lines := by
  rw [stateAfter_cons, hl]
  rfl

theorem stateAfter_cons_ok (h : t.forget.stateAfter s firstLine (line :: lines) = .ok last) :
    ∃ tokens next, t.forget.lineTokens line.text s firstLine = .ok (tokens, next) ∧
      t.forget.stateAfter next false lines = .ok last := by
  rw [stateAfter_cons] at h
  obtain ⟨⟨tokens, next⟩, hl, hnext⟩ := bind_ok_iff.1 h
  exact ⟨tokens, next, hl, hnext⟩

theorem reachable_of_stateAfter (ht : t.Truthful) (hs : t.Reachable s)
    (h : t.forget.stateAfter s firstLine lines = .ok last) :
    t.Reachable last := by
  induction lines generalizing s firstLine with
  | nil =>
    obtain rfl := Except.ok.inj h
    exact hs
  | cons line lines ih =>
    obtain ⟨tokens, next, hl, hnext⟩ := stateAfter_cons_ok h
    exact ih (.line .start hs ((ht.tokenizeLine_fst ..).trans hl)) hnext

/-- Lines are tokenized one after the other: first the ones before, then the ones behind in the
state that those lead to. -/
theorem tokenizeFrom_append (t : Tokenizer) (s : State) (firstLine : Bool) (xs ys : List Line) :
    t.forget.tokenizeFrom s firstLine (xs ++ ys) =
      t.forget.tokenizeFrom s firstLine xs >>= fun before =>
        t.forget.stateAfter s firstLine xs >>= fun next =>
          (before ++ ·) <$> t.forget.tokenizeFrom next (firstLine && xs.isEmpty) ys := by
  induction xs generalizing s firstLine with
  | nil =>
    rw [List.nil_append, List.isEmpty_nil, Bool.and_true]
    change _ = ([] ++ ·) <$> t.forget.tokenizeFrom s firstLine ys
    rcases t.forget.tokenizeFrom s firstLine ys with e | answers <;> rfl
  | cons line xs ih =>
    rw [List.cons_append]
    rcases hl : t.forget.lineTokens line.text s firstLine with e | ⟨tokens, next⟩
    · rw [tokenizeFrom_of_error hl, tokenizeFrom_of_error hl]
      rfl
    · rw [tokenizeFrom_of_ok hl, tokenizeFrom_of_ok hl, stateAfter_of_ok hl, ih, Bool.false_and,
        List.isEmpty_cons, Bool.and_false]
      rcases t.forget.tokenizeFrom next false xs with e | before
      · rfl
      rcases t.forget.stateAfter next false xs with e | last
      · rfl
      change _ <$> _ <$> t.forget.tokenizeFrom last false ys =
        _ <$> t.forget.tokenizeFrom last false ys
      rcases t.forget.tokenizeFrom last false ys with e | behind <;> rfl

theorem documentTokens_map_append (before : List (Line × List Token))
    (answers : Scan (List (Line × List Token))) :
    documentTokens <$> (before ++ ·) <$> answers =
      (documentTokens before ++ ·) <$> documentTokens <$> answers := by
  rcases answers with e | answers
  · rfl
  · exact congrArg Except.ok List.flatMap_append

theorem documentTokens_withOffsets (t : Tokenizer) (s : State) (firstLine : Bool)
    (m n : Nat) (ps : List (List Char)) :
    documentTokens <$> t.forget.tokenizeFrom s firstLine (withOffsets (m + n) ps) =
      (fun answers => shiftTokens m (documentTokens answers)) <$>
        t.forget.tokenizeFrom s firstLine (withOffsets n ps) := by
  induction ps generalizing s firstLine n with
  | nil => rfl
  | cons p ps ih =>
    rw [withOffsets, withOffsets]
    rcases hl : t.forget.lineTokens p s firstLine with e | ⟨tokens, next⟩
    · have hline (k : Nat) : t.forget.lineTokens (Line.mk k p).text s firstLine = .error e := hl
      rw [tokenizeFrom_of_error (hline (m + n)), tokenizeFrom_of_error (hline n)]
      rfl
    · have hline (k : Nat) : t.forget.lineTokens (Line.mk k p).text s firstLine =
          .ok (tokens, next) := hl
      rw [tokenizeFrom_of_ok (hline (m + n)), tokenizeFrom_of_ok (hline n),
        documentTokens_map_cons, Nat.add_assoc, ih]
      rcases t.forget.tokenizeFrom next false (withOffsets (n + byteLength p) ps) with e | answers
      · rfl
      · refine congrArg Except.ok ?_
        change _ = shiftTokens m (shiftTokens n tokens ++ documentTokens answers)
        rw [shiftTokens_append, ← shiftTokens_add]

end Append

end Tokenizer

namespace Registry

variable {r : Registry} {scope : String}

theorem tokenize_append_eq {t : Tokenizer} (ht : r.tokenizer scope = .ok t) {a : String}
    (ha : WholeLines a.toList) (b : String) :
    r.tokenize (a ++ b) scope = r.tokenize a scope >>= fun before =>
      t.stateAfter t.initialState true (linesOf a) >>= fun next =>
        (before ++ shiftTokens (byteLength a.toList) ·) <$> Tokenizer.documentTokens <$>
          t.tokenizeFrom next a.toList.isEmpty (linesOf b) := by
  have hf : t.forget = t := forget_of_tokenizerWith ht
  have happend := t.tokenizeFrom_append t.initialState true (linesOf a)
    (withOffsets (byteLength a.toList) (cutLines b.toList))
  rw [hf, ← linesOf_append ha, Bool.true_and, isEmpty_linesOf] at happend
  rw [tokenize_of_ok ht, tokenize_of_ok ht, happend]
  rcases t.tokenizeFrom t.initialState true (linesOf a) with e | before
  · rfl
  rcases t.stateAfter t.initialState true (linesOf a) with e | next
  · rfl
  have hshift := t.documentTokens_withOffsets next a.toList.isEmpty (byteLength a.toList) 0
    (cutLines b.toList)
  rw [hf, Nat.add_zero] at hshift
  change Tokenizer.documentTokens <$> (before ++ ·) <$> t.tokenizeFrom next a.toList.isEmpty
      (withOffsets (byteLength a.toList) (cutLines b.toList)) =
    (Tokenizer.documentTokens before ++ shiftTokens (byteLength a.toList) ·) <$>
      Tokenizer.documentTokens <$> t.tokenizeFrom next a.toList.isEmpty (linesOf b)
  rw [Tokenizer.documentTokens_map_append, hshift]
  change _ <$> _ <$> t.tokenizeFrom next a.toList.isEmpty (linesOf b) = _
  rcases t.tokenizeFrom next a.toList.isEmpty (linesOf b) with e | after <;> rfl

/-- The tokens of answered lines behind other text. -/
theorem shiftTokens_documentTokens (n : Nat) (answers : List (Line × List Token × State)) :
    shiftTokens n (Tokenizer.documentTokens (answers.map fun (line, ts, _) => (line, ts))) =
      answers.flatMap fun (line, ts, _) => ts.map fun t =>
        { t with start := t.start + line.offset + n, stop := t.stop + line.offset + n } := by
  simp only [shiftTokens, Tokenizer.documentTokens, List.flatMap_map, List.map_flatMap,
    List.map_map, Function.comp_def, Nat.add_assoc]

/-- What was highlighted stays when text is added behind the last line feed: the tokens of the text
before it come first, the others are those that the lines behind it are answered with, one after the
other from the state that the lines before it lead to. An error of the text before it stays too. -/
theorem tokenize_append {a : String} (ha : WholeLines a.toList) (r : Registry) (scope b : String) :
    (∀ tokens, r.tokenize (a ++ b) scope = .ok tokens →
      ∃ (fresh : Tokenizer) (before : List Token) (next : State)
          (answers : List (Line × List Token × State)),
        r.tokenizer scope = .ok fresh ∧
        r.tokenize a scope = .ok before ∧
        fresh.stateAfter fresh.initialState true (linesOf a) = .ok next ∧
        answers.map (·.1) = linesOf b ∧
        (∀ t, fresh.History t →
          t.answersFrom next a.toList.isEmpty (linesOf b) = answers.map fun p => .ok p.2) ∧
        tokens = before ++ answers.flatMap fun (line, ts, _) => ts.map fun t => { t with
          start := t.start + line.offset + byteLength a.toList
          stop := t.stop + line.offset + byteLength a.toList }) ∧
    ∀ e, r.tokenize a scope = .error e → r.tokenize (a ++ b) scope = .error e := by
  rcases ht : r.tokenizer scope with e | fresh
  · rw [tokenize_of_error ht, tokenize_of_error ht]
    exact ⟨fun tokens h => (by cases h), fun e h => h⟩
  rw [tokenize_append_eq ht ha]
  constructor
  · intro tokens h
    obtain ⟨before, hbefore, h⟩ := bind_ok_iff.1 h
    obtain ⟨next, hnext, h⟩ := bind_ok_iff.1 h
    obtain ⟨after, hafter, rfl⟩ := map_ok_iff.1 h
    obtain ⟨behind, hbehind, rfl⟩ := map_ok_iff.1 hafter
    obtain ⟨answers, hlines, hanswers, rfl⟩ := Tokenizer.answersFrom_of_tokenizeFrom hbehind
    refine ⟨fresh, before, next, answers, rfl, hbefore, hnext, hlines, fun t hist => ?_, ?_⟩
    · have hfresh := truthful_of_tokenizerWith ht
      rw [(hist.truthful hfresh).answersFrom_eq, hist.forget_eq, ← hfresh.answersFrom_eq]
      exact hanswers
    · rw [shiftTokens_documentTokens]
  · intro e h
    rw [h]
    rfl

/-- A group that is open behind the cut, and a line before it that fails. -/
theorem tokenize_append_in_group :
    WholeLines "(a\n".toList ∧ WholeLines "x0\n".toList ∧
    (∃ (fresh : Tokenizer) (next : State) (answers : List (Line × List Token × State)),
      sampleRegistry.tokenizer "source.sample" = .ok fresh ∧
      sampleRegistry.tokenize "(a\n" "source.sample" = .ok [
        ⟨["source.sample", "meta.group"], 0, 1⟩, ⟨["source.sample", "meta.group"], 1, 3⟩] ∧
      fresh.stateAfter fresh.initialState true (linesOf "(a\n") = .ok next ∧
      fresh.answersFrom next false (linesOf "b)\nc=1") = (answers.map fun p => .ok p.2) ∧
      answers.map (fun (_, ts, _) => ts) = [
        [⟨["source.sample", "meta.group"], 0, 1⟩, ⟨["source.sample", "meta.group"], 1, 2⟩,
          ⟨["source.sample"], 2, 3⟩],
        [⟨["source.sample"], 0, 2⟩, ⟨["source.sample", "constant.digit"], 2, 3⟩]] ∧
      sampleRegistry.tokenize ("(a\n" ++ "b)\nc=1") "source.sample" = .ok [
        ⟨["source.sample", "meta.group"], 0, 1⟩, ⟨["source.sample", "meta.group"], 1, 3⟩,
        ⟨["source.sample", "meta.group"], 3, 4⟩, ⟨["source.sample", "meta.group"], 4, 5⟩,
        ⟨["source.sample"], 5, 6⟩, ⟨["source.sample"], 6, 8⟩,
        ⟨["source.sample", "constant.digit"], 8, 9⟩]) ∧
    ∃ e, sampleRegistry.tokenize "x0\n" "source.sample" = .error e ∧
      ∀ b, sampleRegistry.tokenize ("x0\n" ++ b) "source.sample" = .error e := by
  have hgroup : WholeLines "(a\n".toList := .inr (by decide +kernel)
  have hbroken : WholeLines "x0\n".toList := .inr (by decide +kernel)
  refine ⟨hgroup, hbroken, ?_, ?_⟩
  · have hok : (sampleRegistry.tokenize ("(a\n" ++ "b)\nc=1") "source.sample").toOption.any
        (fun _ => true) = true := by decide +kernel
    obtain ⟨tokens, htokens, -⟩ := exists_ok_of_any hok
    obtain ⟨fresh, -, next, answers, hfresh, -, hnext, -, hanswers, -⟩ :=
      (tokenize_append hgroup sampleRegistry "source.sample" "b)\nc=1").1 tokens htokens
    have hlines : (sampleRegistry.tokenizer "source.sample").toOption.any (fun fresh =>
        (fresh.stateAfter fresh.initialState true (linesOf "(a\n")).toOption.any fun next =>
          (fresh.answersFrom next false (linesOf "b)\nc=1")).filterMap
            (fun answer => answer.toOption.map (·.1)) == [
              [⟨["source.sample", "meta.group"], 0, 1⟩, ⟨["source.sample", "meta.group"], 1, 2⟩,
                ⟨["source.sample"], 2, 3⟩],
              [⟨["source.sample"], 0, 2⟩, ⟨["source.sample", "constant.digit"], 2, 3⟩]]) = true := by
      decide +kernel
    have hstart := hanswers fresh .start
    obtain ⟨fresh', hfresh', hlines⟩ := exists_ok_of_any hlines
    cases hfresh.symm.trans hfresh'
    obtain ⟨next', hnext', hlines⟩ := exists_ok_of_any hlines
    cases hnext.symm.trans hnext'
    change fresh.answersFrom next false (linesOf "b)\nc=1") = _ at hstart
    rw [hstart, List.filterMap_map] at hlines
    refine ⟨fresh, next, answers, hfresh, by decide +kernel, hnext, hstart, ?_, by decide +kernel⟩
    simpa [Function.comp_def, Except.toOption] using hlines
  · have hfails : (sampleRegistry.tokenize "x0\n" "source.sample").isOk = false := by
      decide +kernel
    rcases h : sampleRegistry.tokenize "x0\n" "source.sample" with e | tokens
    · exact ⟨e, rfl, fun b => (tokenize_append hbroken sampleRegistry "source.sample" b).2 e h⟩
    · rw [h] at hfails
      cases hfails

end Registry

end Scopelight
