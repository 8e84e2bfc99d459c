import Scopelight.Proofs.Outcome
import Scopelight.Proofs.Recall

/-!
# What a tokenizer remembers

A tokenizer remembers expansions as they are, so its memory never shows: what it makes of a line is
what it makes of it without memory (`History.tokenizeLine_fst`), whatever lines it met before and
whether their tokens could be made (`answers_without_history`). What lines keep holds in all states
that they lead to (`Reachable.rec_line`).
-/

namespace Scopelight

namespace Tokenizer

/-- What is remembered is what an expansion gives. -/
def Truthful (t : Tokenizer) : Prop :=
  ∀ owner rules, t.memo.lookup owner = some rules → rules = t.nestedRules owner

/-- The tokenizer without its memory. -/
def forget (t : Tokenizer) : Tokenizer := { t with memo := [] }

/-- The tokenizers that a tokenizer becomes by calls, of any lines in any states, answered or
not. -/
inductive History (fresh : Tokenizer) : Tokenizer → Prop
  | start : History fresh fresh
  | call {t : Tokenizer} (line : List Char) (s : State) (firstLine : Bool) :
    History fresh t → History fresh (t.tokenizeLine line s firstLine).2

/-- The tokens of lines, in offsets of the document. -/
def documentTokens (answers : List (Text.Line × List Token)) : List Token :=
  answers.flatMap fun (line, tokens) => shiftTokens line.offset tokens

/-- The states that lines lead to from the start of a document. -/
inductive Reachable (fresh : Tokenizer) : State → Prop
  | initial : Reachable fresh fresh.initialState
  | line {t : Tokenizer} {line : List Char} {s next : State} {firstLine : Bool}
      {tokens : List Token} :
    History fresh t → Reachable fresh s →
      (t.tokenizeLine line s firstLine).1 = .ok (tokens, next) → Reachable fresh next

@[simp]
theorem forget_forget (t : Tokenizer) : t.forget.forget = t.forget := rfl

theorem truthful_forget (t : Tokenizer) : t.forget.Truthful := by
  intro owner rules h
  simp [forget] at h

@[simp]
theorem forget_tokenizeLine (t : Tokenizer) (line : List Char) (s : State) (firstLine : Bool) :
    (t.tokenizeLine line s firstLine).2.forget = t.forget := rfl

theorem truthful_iff {t : Tokenizer} : t.Truthful ↔ t.remembered = t.nestedRules := by
  unfold Truthful remembered
  rw [funext_iff]
  refine forall_congr' fun owner => ?_
  rcases t.memo.lookup owner with _ | rules
  · exact ⟨fun _ => rfl, fun _ rules h => by cases h⟩
  · exact ⟨fun h => h rules rfl, fun h rules' hr => by cases hr; exact h⟩

theorem Truthful.tokenizeLine {t : Tokenizer} (ht : t.Truthful) (line : List Char) (s : State)
    (firstLine : Bool) : (t.tokenizeLine line s firstLine).2.Truthful := by
  rw [truthful_iff, remembered_tokenizeLine, truthful_iff.1 ht]
  rfl

theorem Truthful.scanner_eq {t : Tokenizer} (ht : t.Truthful) : t.scanner = t.forget.scanner := by
  unfold scanner
  rw [truthful_iff.1 ht, truthful_iff.1 (truthful_forget t)]
  rfl

theorem Truthful.lineTokens_eq {t : Tokenizer} (ht : t.Truthful) (line : List Char) (s : State)
    (firstLine : Bool) :
    t.lineTokens line s firstLine = (t.forget.lineTokens line s firstLine : Scan _) := by
  unfold lineTokens
  rw [ht.scanner_eq]

theorem Truthful.tokenizeLine_fst {t : Tokenizer} (ht : t.Truthful) (line : List Char) (s : State)
    (firstLine : Bool) :
    (t.tokenizeLine line s firstLine).1 = t.forget.lineTokens line s firstLine := by
  rw [t.tokenizeLine_fst, ht.lineTokens_eq]

theorem tokenizeFrom_cons (t : Tokenizer) (s : State) (firstLine : Bool) (line : Text.Line)
    (lines : List Text.Line) :
    t.tokenizeFrom s firstLine (line :: lines) =
      (t.tokenizeLine line.text s firstLine).1 >>= fun p =>
        ((line, p.1) :: ·) <$>
          (t.tokenizeLine line.text s firstLine).2.tokenizeFrom p.2 false lines := by
  simp only [tokenizeFrom]
  rcases t.tokenizeLine line.text s firstLine with ⟨e | ⟨tokens, next⟩, u⟩
  · rfl
  · change u.tokenizeFrom next false lines >>= (fun answers => .ok ((line, tokens) :: answers)) =
      ((line, tokens) :: ·) <$> u.tokenizeFrom next false lines
    rcases u.tokenizeFrom next false lines with e | answers <;> rfl

theorem Truthful.tokenizeFrom_eq {t : Tokenizer} (ht : t.Truthful) (s : State) (firstLine : Bool)
    (lines : List Text.Line) :
    t.tokenizeFrom s firstLine lines = t.forget.tokenizeFrom s firstLine lines := by
  induction lines generalizing t s firstLine with
  | nil => rfl
  | cons line lines ih =>
    have hf := truthful_forget t
    rw [tokenizeFrom_cons, tokenizeFrom_cons, ht.tokenizeLine_fst, hf.tokenizeLine_fst, forget_forget]
    congr 1
    funext p
    rw [ih (ht.tokenizeLine _ _ _), ih (hf.tokenizeLine _ _ _), forget_tokenizeLine,
      forget_tokenizeLine, forget_forget]

theorem tokenizeFrom_of_error {t : Tokenizer} {s : State} {firstLine : Bool} {line : Text.Line}
    {e : Failure} (hl : t.forget.lineTokens line.text s firstLine = .error e)
    (lines : List Text.Line) : t.forget.tokenizeFrom s firstLine (line :: lines) = .error e := by
  rw [tokenizeFrom_cons, (truthful_forget t).tokenizeLine_fst, forget_forget, hl]
  rfl

theorem tokenizeFrom_of_ok {t : Tokenizer} {s : State} {firstLine : Bool} {line : Text.Line}
    {tokens : List Token} {next : State}
    (hl : t.forget.lineTokens line.text s firstLine = .ok (tokens, next))
    (lines : List Text.Line) :
    t.forget.tokenizeFrom s firstLine (line :: lines) =
      ((line, tokens) :: ·) <$> t.forget.tokenizeFrom next false lines := by
  have hf := truthful_forget t
  rw [tokenizeFrom_cons, hf.tokenizeLine_fst, forget_forget, hl]
  change _ <$> (t.forget.tokenizeLine line.text s firstLine).2.tokenizeFrom next false lines = _
  rw [(hf.tokenizeLine _ _ _).tokenizeFrom_eq, forget_tokenizeLine, forget_forget]

/-- What each line gives, up to the first error. -/
def answersFrom (t : Tokenizer) (s : State) (firstLine : Bool) :
    List Text.Line → List (Scan (List Token × State))
  | [] => []
  | line :: lines =>
    let (answer, t) := t.tokenizeLine line.text s firstLine
    answer :: match answer with
      | .ok (_, next) => t.answersFrom next false lines
      | .error _ => []

theorem answersFrom_of_ok {t : Tokenizer} {s : State} {firstLine : Bool} {line : Text.Line}
    {tokens : List Token} {next : State}
    (h : (t.tokenizeLine line.text s firstLine).1 = .ok (tokens, next)) (lines : List Text.Line) :
    t.answersFrom s firstLine (line :: lines) =
      .ok (tokens, next) ::
        (t.tokenizeLine line.text s firstLine).2.answersFrom next false lines := by
  simp only [answersFrom, h]

theorem answersFrom_of_error {t : Tokenizer} {s : State} {firstLine : Bool} {line : Text.Line}
    {e : Failure} (h : (t.tokenizeLine line.text s firstLine).1 = .error e) (lines : List Text.Line) :
    t.answersFrom s firstLine (line :: lines) = [.error e] := by
  simp only [answersFrom, h]

theorem Truthful.answersFrom_eq {t : Tokenizer} (ht : t.Truthful) (s : State) (firstLine : Bool)
    (lines : List Text.Line) :
    t.answersFrom s firstLine lines = t.forget.answersFrom s firstLine lines := by
  induction lines generalizing t s firstLine with
  | nil => rfl
  | cons line lines ih =>
    have hf := truthful_forget t
    have hfst := ht.tokenizeLine_fst line.text s firstLine
    have hfst' := hf.tokenizeLine_fst line.text s firstLine
    rw [forget_forget] at hfst'
    rcases hl : t.forget.lineTokens line.text s firstLine with e | ⟨tokens, next⟩
    · rw [answersFrom_of_error (hfst.trans hl), answersFrom_of_error (hfst'.trans hl)]
    · rw [answersFrom_of_ok (hfst.trans hl), answersFrom_of_ok (hfst'.trans hl),
        ih (ht.tokenizeLine _ _ _), ih (hf.tokenizeLine _ _ _), forget_tokenizeLine,
        forget_tokenizeLine, forget_forget]

/-- Lines that are all answered give the tokens of their answers. -/
theorem answersFrom_of_tokenizeFrom {t : Tokenizer} {s : State} {firstLine : Bool}
    {lines : List Text.Line} {tokens : List (Text.Line × List Token)}
    (h : t.tokenizeFrom s firstLine lines = .ok tokens) :
    ∃ answers : List (Text.Line × List Token × State), answers.map (·.1) = lines ∧
      t.answersFrom s firstLine lines = answers.map (.ok ·.2) ∧
      tokens = answers.map fun (line, ts, _) => (line, ts) := by
  induction lines generalizing t s firstLine tokens with
  | nil =>
    obtain rfl := Except.ok.inj h
    exact ⟨[], rfl, rfl, rfl⟩
  | cons line lines ih =>
    rw [tokenizeFrom_cons] at h
    obtain ⟨⟨ts, next⟩, hl, h⟩ := bind_ok_iff.1 h
    obtain ⟨rest, hrest, rfl⟩ := map_ok_iff.1 h
    obtain ⟨answers, rfl, hanswers, rfl⟩ := ih hrest
    refine ⟨(line, ts, next) :: answers, rfl, ?_, rfl⟩
    rw [answersFrom_of_ok hl, hanswers, List.map_cons]

theorem documentTokens_map_cons (line : Text.Line) (tokens : List Token)
    (answers : Scan (List (Text.Line × List Token))) :
    documentTokens <$> ((line, tokens) :: ·) <$> answers =
      (shiftTokens line.offset tokens ++ ·) <$> documentTokens <$> answers := by
  rcases answers with e | answers <;> rfl

theorem History.forget_eq {fresh t : Tokenizer} (h : fresh.History t) : t.forget = fresh.forget := by
  induction h with
  | start => rfl
  | call line s firstLine _ ih => exact (forget_tokenizeLine _ line s firstLine).trans ih

theorem History.truthful {fresh t : Tokenizer} (h : fresh.History t) (hf : fresh.Truthful) :
    t.Truthful := by
  induction h with
  | start => exact hf
  | call line s firstLine _ ih => exact ih.tokenizeLine line s firstLine

/-- What a tokenizer makes of a line is the same after all it has met. -/
theorem History.tokenizeLine_fst {fresh t : Tokenizer} (h : fresh.History t) (hf : fresh.Truthful)
    (line : List Char) (s : State) (firstLine : Bool) :
    (t.tokenizeLine line s firstLine).1 = fresh.lineTokens line s firstLine := by
  rw [(h.truthful hf).tokenizeLine_fst, h.forget_eq, hf.lineTokens_eq]

/-- What the start of a document has and every line keeps holds in all reachable states. -/
theorem Reachable.rec_line {fresh : Tokenizer} (hf : fresh.Truthful) {P : State → Prop}
    (hi : P fresh.initialState)
    (hl : ∀ line s next firstLine tokens, P s →
      fresh.lineTokens line s firstLine = .ok (tokens, next) → P next)
    {s : State} (h : fresh.Reachable s) : P s := by
  induction h with
  | initial => exact hi
  | line ht _ ha ih =>
    rw [ht.tokenizeLine_fst hf] at ha
    exact hl _ _ _ _ _ ih ha

end Tokenizer

namespace Registry

theorem forget_of_tokenizerWith {r : Registry} {scope : String} {config : Config} {t : Tokenizer}
    (h : r.tokenizerWith scope config = .ok t) : t.forget = t := by
  unfold tokenizerWith at h
  split at h
  · simp at h
  · simp only [Except.ok.injEq] at h
    rw [← h]
    rfl

theorem registry_of_tokenizerWith {r : Registry} {scope : String} {config : Config} {t : Tokenizer}
    (h : r.tokenizerWith scope config = .ok t) :
    t.registry = r ∧ r.idOf? scope = some t.base := by
  unfold tokenizerWith at h
  split at h
  · simp at h
  · rename_i base hid
    simp only [Except.ok.injEq] at h
    rw [← h]
    exact ⟨rfl, hid⟩

theorem config_of_tokenizerWith {r : Registry} {scope : String} {config : Config} {t : Tokenizer}
    (h : r.tokenizerWith scope config = .ok t) : t.config = config := by
  unfold tokenizerWith at h
  split at h
  · cases h
  · cases h
    rfl

theorem grammar_of_idOf {r : Registry} {scope : String} {id : Nat} (h : r.idOf? scope = some id) :
    ∃ g, r.grammar? id = some g ∧ g.scope = scope :=
  r.agrees.lookup.1 h

theorem grammar_of_tokenizerWith {r : Registry} {scope : String} {config : Config} {t : Tokenizer}
    (h : r.tokenizerWith scope config = .ok t) :
    ∃ g, r.grammar? t.base = some g ∧ g.scope = scope ∧ t.scope = scope ∧
      t.initialState = .initial ⟨t.base, g.root⟩ scope := by
  obtain ⟨hr, hid⟩ := registry_of_tokenizerWith h
  obtain ⟨g, hg, hs⟩ := grammar_of_idOf hid
  have hscope : t.scope = scope := by
    unfold Tokenizer.scope
    rw [hr, hg]
    exact hs
  refine ⟨g, hg, hs, hscope, ?_⟩
  unfold Tokenizer.initialState
  rw [hscope, hr, hg]
  rfl

theorem truthful_of_tokenizerWith {r : Registry} {scope : String} {config : Config} {t : Tokenizer}
    (h : r.tokenizerWith scope config = .ok t) : t.Truthful := by
  rw [← forget_of_tokenizerWith h]
  exact Tokenizer.truthful_forget t

theorem tokenize_of_error {r : Registry} {scope : String} {e : GrammarError}
    (h : r.tokenizer scope = .error e) (doc : String) :
    r.tokenize doc scope = .error (.grammar e) := by
  unfold tokenize tokenizeLines scanTokenizer
  rw [h]
  rfl

theorem tokenize_of_ok {r : Registry} {scope : String} {t : Tokenizer}
    (h : r.tokenizer scope = .ok t) (doc : String) :
    r.tokenize doc scope =
      Tokenizer.documentTokens <$> t.tokenizeFrom t.initialState true (Text.linesOf doc) := by
  unfold tokenize tokenizeLines scanTokenizer
  rw [h]
  change (t.tokenizeFrom t.initialState true (Text.linesOf doc) >>= _) = _
  rcases t.tokenizeFrom t.initialState true (Text.linesOf doc) with e | answers <;> rfl

end Registry

/-! ## A small grammar -/

/-- Groups that nest, a capture that is tokenized again, and a region whose end pattern can be read
after some openings only. -/
def sampleGrammar : Descriptor :=
  { Descriptor.empty with
    scopeName := "source.sample"
    patterns := [
      { RuleSpec.empty with
        name := some "meta.group"
        beginPattern := some "\\("
        endPattern := some "\\)"
        patterns := some [{ RuleSpec.empty with reference := some "$self" }] },
      { RuleSpec.empty with
        matchPattern := some "(\\w)=(\\w+)"
        captures := some [("2", { RuleSpec.empty with
          patterns := some [{ RuleSpec.empty with
            name := some "constant.digit"
            matchPattern := some "\\d" }] })] },
      { RuleSpec.empty with
        beginPattern := some "x(\\d)"
        endPattern := some "[a-\\1]" }] }

def sampleRegistry : Registry :=
  (Registry.empty.register [sampleGrammar]).toOption.getD Registry.empty

/-! ## No hidden history -/

namespace Registry

/-- After any calls, of any lines in any states, answered or not, what a tokenizer finds in its
memory is the expansion for its grammar and depth, and it answers each further call as a new one
does. -/
theorem answers_without_history {r : Registry} {scope : String} {config : Config}
    {fresh t : Tokenizer} (h : r.tokenizerWith scope config = .ok fresh) (ht : fresh.History t) :
    r.idOf? scope = some fresh.base ∧
    (∀ owner rules, t.memo.lookup owner = some rules →
      rules = r.expandNested fresh.base config.includeDepth owner) ∧
    ∀ line s firstLine,
      (t.tokenizeLine line s firstLine).1 = (fresh.tokenizeLine line s firstLine).1 := by
  have hf := truthful_of_tokenizerWith h
  obtain ⟨hregistry, hid⟩ := registry_of_tokenizerWith h
  refine ⟨hid, fun owner rules hl => ?_, fun line s firstLine => ?_⟩
  · have hnested : t.nestedRules = fresh.nestedRules := by
      change t.forget.nestedRules = fresh.forget.nestedRules
      rw [ht.forget_eq]
    rw [ht.truthful hf owner rules hl, hnested, Tokenizer.nestedRules, hregistry,
      config_of_tokenizerWith h]
  · rw [ht.tokenizeLine_fst hf, fresh.tokenizeLine_fst]

/-- A call whose capture is tokenized again, and one that fails after it has opened a group, each
remember something. -/
theorem answers_after_failure :
    ∃ fresh t₁ t₂, sampleRegistry.tokenizerWith "source.sample" .default = .ok fresh ∧
      t₁ = (fresh.tokenizeLine "a=b1".toList fresh.initialState true).2 ∧ t₁.memo.length = 2 ∧
      (∃ e, (t₁.tokenizeLine "(x0".toList fresh.initialState true).1 = .error e) ∧
      t₂ = (t₁.tokenizeLine "(x0".toList fresh.initialState true).2 ∧ t₂.memo.length = 3 ∧
      (∀ owner rules, t₂.memo.lookup owner = some rules →
        rules = sampleRegistry.expandNested fresh.base Config.default.includeDepth owner) ∧
      ∀ line s firstLine,
        (t₂.tokenizeLine line s firstLine).1 = (fresh.tokenizeLine line s firstLine).1 := by
  have hrun : (sampleRegistry.tokenizerWith "source.sample" .default).toOption.any (fun fresh =>
      let t₁ := (fresh.tokenizeLine "a=b1".toList fresh.initialState true).2
      let call := t₁.tokenizeLine "(x0".toList fresh.initialState true
      t₁.memo.length == 2 && (call.1.toOption.isNone && call.2.memo.length == 3)) = true := by
    decide +kernel
  obtain ⟨fresh, h, hrun⟩ := exists_ok_of_any hrun
  simp only [Bool.and_eq_true, beq_iff_eq] at hrun
  obtain ⟨hfirst, hfails, hsecond⟩ := hrun
  have ht : fresh.History _ :=
    (Tokenizer.History.start.call "a=b1".toList fresh.initialState true).call
      "(x0".toList fresh.initialState true
  obtain ⟨-, hmemo, hanswers⟩ := answers_without_history h ht
  refine ⟨fresh, _, _, h, rfl, hfirst, ?_, rfl, hsecond, hmemo, hanswers⟩
  rcases hcall : (Tokenizer.tokenizeLine _ "(x0".toList fresh.initialState true).1 with e | answer
  · exact ⟨e, rfl⟩
  · rw [hcall] at hfails
    cases hfails

end Registry

end Scopelight
