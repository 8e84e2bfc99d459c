import Scopelight.Proofs.Lines
import Scopelight.Proofs.Memory
import Scopelight.Proofs.Step

/-!
# Line endings do not show

A line is matched with a line feed in place of its terminator, and the terminator only decides how
far the tokens past the content reach. So two lines of one content get the same answer, clipped to
the content (`clip_tokenizeLine`), and documents whose lines have the same contents get the same
answers line by line (`clippedAnswers_eq`).
-/

namespace Scopelight

open Text

/-- The tokens of the first bytes. -/
def clipTokens (size : Nat) (ts : List Token) : List Token :=
  (ts.map fun t => { t with start := min t.start size, stop := min t.stop size }).filter
    fun t => t.start < t.stop

/-- What a line gives, with its tokens clipped. -/
def clipAnswer (size : Nat) (answer : Scan (List Token × State)) : Scan (List Token × State) :=
  Prod.map (clipTokens size) id <$> answer

/-- Tokens of the matched line as tokens of the content. -/
def contentTokens (content : List Char) (ts : List Token) : List Token :=
  (ts.map fun t => { t with
    start := byteOffset content t.start
    stop := byteOffset content t.stop }).filter fun t => t.start < t.stop

section Clip

theorem min_realOffset (line : List Char) (pos : Nat) :
    min (realOffset line pos) (byteLength (stripTerminator line)) =
      byteOffset (stripTerminator line) pos := by
  simp only [realOffset]
  split_ifs with hpos
  · exact Nat.min_eq_left (byteOffset_le _ pos)
  · rw [Nat.min_eq_right (byteLength_mono (stripTerminator_isPrefix line))]
    unfold byteOffset
    rw [List.take_of_length_le (by omega)]

/-- Clipped to the content, the tokens of a line do not depend on its terminator. -/
theorem clip_realTokens (line : List Char) (ts : List Token) :
    clipTokens (byteLength (stripTerminator line)) (realTokens line ts) =
      contentTokens (stripTerminator line) ts := by
  unfold clipTokens realTokens contentTokens
  induction ts with
  | nil => rfl
  | cons t ts ih =>
    have hstart := min_realOffset line t.start
    have hstop := min_realOffset line t.stop
    simp only [List.map_cons, List.filter_cons, decide_eq_true_eq]
    -- a token that is empty in the line is empty in the content
    split_ifs with hreal hcontent hcontent
    · simp only [List.map_cons, List.filter_cons, hstart, hstop, hcontent, decide_true, if_true, ih]
    · simp only [List.map_cons, List.filter_cons, hstart, hstop, hcontent, decide_false, ih]
      rfl
    · omega
    · exact ih

theorem clipAnswer_eq_error {size : Nat} {answer : Scan (List Token × State)} {e : Failure} :
    clipAnswer size answer = .error e ↔ answer = .error e :=
  map_error_iff

theorem clipAnswer_eq_ok {size : Nat} {answer : Scan (List Token × State)} {tokens : List Token}
    {next : State} (h : clipAnswer size answer = .ok (tokens, next)) :
    ∃ tokens', answer = .ok (tokens', next) ∧ clipTokens size tokens' = tokens := by
  obtain ⟨⟨tokens', next'⟩, hanswer, hclip⟩ := map_ok_iff.1 h
  cases hclip
  exact ⟨tokens', hanswer, rfl⟩

end Clip

namespace Tokenizer

section Line

variable {t : Tokenizer} {s : State} {firstLine : Bool}

theorem clip_tokenizeLine (t : Tokenizer) (s : State) (firstLine : Bool) {line line' : List Char}
    (h : stripTerminator line' = stripTerminator line) :
    clipAnswer (byteLength (stripTerminator line')) (t.tokenizeLine line' s firstLine).1 =
      clipAnswer (byteLength (stripTerminator line)) (t.tokenizeLine line s firstLine).1 := by
  have hanswer : ∀ line, clipAnswer (byteLength (stripTerminator line))
      (t.tokenizeLine line s firstLine).1 =
      (fun c : Cursor => (contentTokens (stripTerminator line) c.output.tokens.reverse,
        c.state.forgetPlaces)) <$> (t.scanner.scanLine stepLimit s
          (stripTerminator line ++ ['\n']).toArray firstLine : Scan Cursor) := by
    intro line
    rw [t.tokenizeLine_fst]
    change _ <$> (t.scanner.scanLine stepLimit s (matchedLine line) firstLine >>= _) =
      _ <$> t.scanner.scanLine stepLimit s (matchedLine line) firstLine
    rcases t.scanner.scanLine (M := Scan) stepLimit s (matchedLine line) firstLine with e | c
    · rfl
    · change Except.ok (clipTokens _ (realTokens line _), _) = Except.ok (_, _)
      rw [clip_realTokens]
      rfl
  rw [hanswer, hanswer, h]

theorem tokenizeLine_snd_congr (t : Tokenizer) (s : State) (firstLine : Bool)
    {line line' : List Char} (h : stripTerminator line' = stripTerminator line) :
    (t.tokenizeLine line' s firstLine).2 = (t.tokenizeLine line s firstLine).2 := by
  have hmemo : ∀ line, (t.tokenizeLine line s firstLine).2 =
      { t with memo := ((t.scanner.scanLine stepLimit s (stripTerminator line ++ ['\n']).toArray
        firstLine : Recall Cursor).run.run t.memo).2 } :=
    fun line => congrArg (fun memo => { t with memo }) (Recall.memo_bind_pure _ _ _)
  rw [hmemo, hmemo, h]

/-- What each line gives, clipped to its content. -/
def clippedAnswers (t : Tokenizer) (s : State) (firstLine : Bool) (lines : List Line) :
    List (Scan (List Token × State)) :=
  List.zipWith (fun line answer => clipAnswer (byteLength line.content) answer) lines
    (t.answersFrom s firstLine lines)

theorem clippedAnswers_eq (t : Tokenizer) (s : State) (firstLine : Bool) {lines lines' : List Line}
    (h : lines'.map Line.content = lines.map Line.content) :
    t.clippedAnswers s firstLine lines' = t.clippedAnswers s firstLine lines := by
  induction lines generalizing t s firstLine lines' with
  | nil =>
    obtain rfl := List.map_eq_nil_iff.1 h
    rfl
  | cons line lines ih =>
    obtain ⟨line', lines', rfl⟩ : ∃ line' rest, lines' = line' :: rest := by
      cases lines' with
      | nil => cases h
      | cons line' rest => exact ⟨line', rest, rfl⟩
    rw [List.map_cons, List.map_cons, List.cons.injEq] at h
    have hclip := t.clip_tokenizeLine s firstLine h.1
    unfold clippedAnswers
    rcases ha : (t.tokenizeLine line.text s firstLine).1 with e | ⟨tokens, next⟩
    · have ha' := clipAnswer_eq_error.1 (hclip.trans (congrArg (clipAnswer _) ha))
      simp only [answersFrom_of_error ha, answersFrom_of_error ha', List.zipWith_cons_cons,
        List.zipWith_nil_right, h.1]
    · obtain ⟨tokens', ha', -⟩ := clipAnswer_eq_ok (hclip.trans (congrArg (clipAnswer _) ha))
      rw [answersFrom_of_ok ha, answersFrom_of_ok ha', List.zipWith_cons_cons,
        List.zipWith_cons_cons, t.tokenizeLine_snd_congr s firstLine h.1]
      rw [ha, ha'] at hclip
      exact congrArg₂ List.cons hclip (ih _ _ _ h.2)

/-- Line endings do not show: a content gets the same answer with each terminator, and a document
without carriage returns gets the same answers with one before each line feed. Answers are clipped
to the contents of their lines. -/
theorem line_ending_irrelevant (t : Tokenizer) (s : State) (firstLine : Bool) :
    (∀ (content e : List Char), content.getLast? ≠ some '\r' → content.getLast? ≠ some '\n' →
      e ∈ terminators →
      clipAnswer (byteLength content) (t.tokenizeLine (content ++ e) s firstLine).1 =
        clipAnswer (byteLength content) (t.tokenizeLine content s firstLine).1) ∧
    ∀ doc : String, '\r' ∉ doc.toList →
      (linesOf (String.ofList (crlf doc.toList))).map Line.content =
        (linesOf doc).map Line.content ∧
      t.clippedAnswers s firstLine (linesOf (String.ofList (crlf doc.toList))) =
        t.clippedAnswers s firstLine (linesOf doc) := by
  constructor
  · intro content e hr hn he
    have hstrip := stripTerminator_append hr hn he
    have hplain := stripTerminator_append hr hn (e := []) List.mem_cons_self
    rw [List.append_nil] at hplain
    have := t.clip_tokenizeLine s firstLine (hstrip.trans hplain.symm)
    rwa [hstrip, hplain] at this
  · intro doc hr
    exact ⟨map_content_crlf hr, t.clippedAnswers_eq s firstLine (map_content_crlf hr)⟩

/-- A line with an open group, and a document with one. -/
theorem line_ending_in_group :
    ∃ fresh, sampleRegistry.tokenizerWith "source.sample" .default = .ok fresh ∧
      clipAnswer 5 (fresh.tokenizeLine "(a=b1\r\n".toList fresh.initialState true).1 =
        clipAnswer 5 (fresh.tokenizeLine "(a=b1".toList fresh.initialState true).1 ∧
      fresh.clippedAnswers fresh.initialState true (linesOf "(a\r\nb=1\r\n") =
        fresh.clippedAnswers fresh.initialState true (linesOf "(a\nb=1\n") := by
  have hregistry : (sampleRegistry.tokenizerWith "source.sample" .default).toOption.any
      (fun _ => true) = true := by decide +kernel
  obtain ⟨fresh, h, -⟩ := exists_ok_of_any hregistry
  obtain ⟨hline, hdocument⟩ := line_ending_irrelevant fresh fresh.initialState true
  exact ⟨fresh, h, hline "(a=b1".toList ['\r', '\n'] (by decide) (by decide) (by decide),
    (hdocument "(a\nb=1\n" (by decide)).2⟩

end Line

end Tokenizer

end Scopelight
