import Mathlib.Tactic.Common
import Scopelight.Tokenizer.Basic

/-!
# A memory that does not show

Scans with a memory and without one are the same code: what the one looks up in its memory the other
expands. `Unseen` says that the answers of both are the same, and that the memory, which was right
before, is right afterwards, also after a failure. This holds of the look-up itself and is kept by
captures that are tokenized again, by steps, runs and the conditions of while regions, and so by
lines (`lineTokens_unseen`).
-/

namespace Scopelight

/-- What is found in the memory is what `expand` gives, and so is what stands for all else. -/
def Memo.Agrees (otherwise expand : RuleRef → List RuleRef) (memo : Memo) : Prop :=
  ∀ owner, (memo.lookup owner).getD (otherwise owner) = expand owner

/-- With any memory that agrees with `expand` the scan answers as the other one does without memory,
and leaves a memory that agrees as well. -/
def Recall.Unseen {α : Type} (otherwise expand : RuleRef → List RuleRef) (x : Recall α)
    (y : Scan α) : Prop :=
  ∀ memo : Memo, memo.Agrees otherwise expand →
    (x.run.run memo).1 = y ∧ (x.run.run memo).2.Agrees otherwise expand

namespace Recall

variable {α β : Type} {otherwise expand : RuleRef → List RuleRef} {x : Recall α} {y : Scan α}

theorem unseen_pure (a : α) : Unseen otherwise expand (pure a) (pure a) :=
  fun _ hm => ⟨rfl, hm⟩

theorem unseen_throw (e : Failure) : Unseen otherwise expand (throw e : Recall α) (throw e) :=
  fun _ hm => ⟨rfl, hm⟩

theorem Unseen.bind (hx : Unseen otherwise expand x y) {f : α → Recall β} {g : α → Scan β}
    (hf : ∀ a, Unseen otherwise expand (f a) (g a)) :
    Unseen otherwise expand (x >>= f) (y >>= g) := by
  intro memo hm
  obtain ⟨hanswer, hmemo⟩ := hx memo hm
  rw [ExceptT.run_bind, StateT.run_bind]
  rcases hr : x.run.run memo with ⟨e | a, memo'⟩
  · rw [hr] at hanswer hmemo
    rw [← hanswer]
    exact ⟨rfl, hmemo⟩
  · rw [hr] at hanswer hmemo
    rw [← hanswer]
    exact hf a memo' hmemo

theorem Unseen.map (hx : Unseen otherwise expand x y) (f : α → β) :
    Unseen otherwise expand (f <$> x) (f <$> y) := by
  rw [map_eq_pure_bind, map_eq_pure_bind]
  exact hx.bind fun a => unseen_pure (f a)

theorem memo_bind_pure (x : Recall α) (f : α → β) (memo : Memo) :
    ((x >>= fun a => pure (f a)).run.run memo).2 = (x.run.run memo).2 := by
  rw [ExceptT.run_bind, StateT.run_bind]
  rcases x.run.run memo with ⟨e | a, memo'⟩ <;> rfl

theorem run_nestedRules (expand : RuleRef → List RuleRef) (owner : RuleRef) (memo : Memo) :
    (Recalls.nestedRules expand owner : Recall (List RuleRef)).run.run memo =
      match memo.lookup owner with
      | some rules => (.ok rules, memo)
      | none => (.ok (expand owner), (owner, expand owner) :: memo) := by
  have hrun : (Recalls.nestedRules expand owner : Recall (List RuleRef)).run.run memo =
      (match memo.lookup owner with
        | some rules => pure rules
        | none => do
          modify ((owner, expand owner) :: ·)
          return expand owner : Recall (List RuleRef)).run.run memo := rfl
  rw [hrun]
  cases memo.lookup owner <;> rfl

theorem unseen_nestedRules (owner : RuleRef) :
    Unseen otherwise expand (Recalls.nestedRules expand owner)
      (Recalls.nestedRules expand owner) := by
  intro memo hm
  rw [run_nestedRules]
  rcases hl : memo.lookup owner with _ | rules
  · refine ⟨rfl, fun other => ?_⟩
    rw [List.lookup_cons]
    split
    · rename_i heq
      rw [eq_of_beq heq]
      rfl
    · exact hm other
  · have howner := hm owner
    rw [hl] at howner
    exact ⟨congrArg Except.ok howner, hm⟩

end Recall

open Recall

section Scan

variable {sc : Scanner} {again : RetokenizeIn Recall} {again' : Retokenize}

/-- Whatever part is tokenized again, with the memory as without. -/
def RetokenizeIn.Unseen (otherwise expand : RuleRef → List RuleRef)
    (again : RetokenizeIn Recall) (again' : Retokenize) : Prop :=
  ∀ s part start firstLine,
    Recall.Unseen otherwise expand (again s part start firstLine) (again' s part start firstLine)

variable {otherwise expand : RuleRef → List RuleRef} (ha : again.Unseen otherwise expand again')
include ha

theorem emitGroups_unseen (s : State) (line : Array Char) (grammar : Nat) (m : Regex.Match)
    (firstLine : Bool) (rules : CaptureRules) (open_ : List OpenCapture) (o : Output) :
    Recall.Unseen otherwise expand (emitGroups again s line grammar m firstLine rules open_ o)
      (emitGroups again' s line grammar m firstLine rules open_ o) := by
  induction rules generalizing open_ o with
  | nil => exact unseen_pure _
  | cons e rest ih =>
    obtain ⟨n, rule⟩ := e
    simp only [emitGroups]
    rcases m.group? n with _ | span
    · exact ih _ _
    simp only []
    split_ifs
    · exact ih _ _
    rcases rule.patterns with _ | patterns
    · rcases expandName rule.name line m with _ | ⟨scope, scopes⟩
      · exact ih _ _
      · exact ih _ _
    · exact (ha _ _ _ _).bind fun part => ih _ _

theorem emitCaptures_unseen (s : State) (line : Array Char) (grammar : Nat) (rules : CaptureRules)
    (m : Regex.Match) (firstLine : Bool) (o : Output) :
    Recall.Unseen otherwise expand (emitCaptures again s line grammar rules m firstLine o)
      (emitCaptures again' s line grammar rules m firstLine o) :=
  emitGroups_unseen ha _ _ _ _ _ _ _ _

namespace Scanner

theorem applyEnd_unseen (line : Array Char) (c : Cursor) (m : Regex.Match) :
    Recall.Unseen otherwise expand (sc.applyEnd again line c m) (sc.applyEnd again' line c m) := by
  unfold applyEnd
  dsimp only
  split
  · refine (emitCaptures_unseen ha _ _ _ _ _ _ _).bind fun o => ?_
    split_ifs <;> exact unseen_pure _
  · refine (unseen_pure _).bind fun o => ?_
    split_ifs <;> exact unseen_pure _

theorem openRegion_unseen (line : Array Char) (c : Cursor) (ref : RuleRef) (rule : Rule)
    (ending : EndTemplate) (captures : CaptureRules) (m : Regex.Match) :
    Recall.Unseen otherwise expand (sc.openRegion again line c ref rule ending captures m)
      (sc.openRegion again' line c ref rule ending captures m) := by
  unfold openRegion
  dsimp only
  refine (emitCaptures_unseen ha _ _ _ _ _ _ _).bind fun o => ?_
  split
  · exact unseen_throw _
  · exact unseen_pure _

theorem applySingle_unseen (line : Array Char) (c : Cursor) (ref : RuleRef) (rule : Rule)
    (captures : CaptureRules) (m : Regex.Match) :
    Recall.Unseen otherwise expand (applySingle again line c ref rule captures m)
      (applySingle again' line c ref rule captures m) := by
  unfold applySingle
  exact (emitCaptures_unseen ha _ _ _ _ _ _ _).bind fun o => unseen_pure _

theorem applyRule_unseen (line : Array Char) (c : Cursor) (ref : RuleRef) (m : Regex.Match) :
    Recall.Unseen otherwise expand (sc.applyRule again line c ref m)
      (sc.applyRule again' line c ref m) := by
  unfold applyRule
  dsimp only
  split
  · exact applySingle_unseen ha _ _ _ _ _ _
  · split_ifs
    · exact unseen_pure _
    · exact openRegion_unseen ha _ _ _ _ _ _ _
  · split_ifs
    · exact unseen_pure _
    · exact openRegion_unseen ha _ _ _ _ _ _ _
  · exact unseen_pure _

end Scanner

end Scan

namespace Scanner

variable {sc : Scanner} {otherwise : RuleRef → List RuleRef}

theorem step_unseen {again : RetokenizeIn Recall} {again' : Retokenize}
    (ha : again.Unseen otherwise sc.nested again') (line : Array Char) (c : Cursor) :
    Recall.Unseen otherwise sc.nested (sc.step again line c) (sc.step again' line c) := by
  unfold step
  refine (unseen_nestedRules _).bind fun rules => ?_
  dsimp only
  split
  · exact unseen_pure _
  · exact (applyEnd_unseen ha _ _ _).map _
  · exact (applyRule_unseen ha _ _ _ _).map _

theorem retokenize_unseen {fuel : Nat}
    (h : ∀ line c, Recall.Unseen otherwise sc.nested (sc.scan fuel line c) (sc.scan fuel line c)) :
    RetokenizeIn.Unseen otherwise sc.nested (sc.retokenize fuel) (sc.retokenize fuel) :=
  fun _ _ _ _ => (h _ _).map _

theorem scan_unseen (fuel : Nat) (line : Array Char) (c : Cursor) :
    Recall.Unseen otherwise sc.nested (sc.scan fuel line c) (sc.scan fuel line c) := by
  induction fuel generalizing line c with
  | zero => exact unseen_throw _
  | succ fuel ih =>
    refine (step_unseen (retokenize_unseen ih) line c).bind fun p => ?_
    cases p with
    | done c => exact unseen_pure c
    | more c => exact ih line c

theorem checkWhile_unseen {again : RetokenizeIn Recall} {again' : Retokenize}
    (ha : again.Unseen otherwise sc.nested again') (line : Array Char) (fs : List Frame)
    (c : Cursor) :
    Recall.Unseen otherwise sc.nested (sc.checkWhile again line fs c)
      (sc.checkWhile again' line fs c) := by
  induction fs generalizing c with
  | nil => exact unseen_pure c
  | cons f fs ih =>
    unfold checkWhile
    dsimp only
    split
    · split
      · exact unseen_pure c
      · refine (emitCaptures_unseen ha _ _ _ _ _ _ _).bind fun o => ?_
        split_ifs <;> exact ih _
    · exact ih _

theorem scanLine_unseen (sc : Scanner) (fuel : Nat) (s : State) (line : Array Char)
    (firstLine : Bool) :
    Recall.Unseen otherwise sc.nested (sc.scanLine fuel s line firstLine)
      (sc.scanLine fuel s line firstLine) :=
  (checkWhile_unseen (retokenize_unseen (scan_unseen fuel)) _ _ _).bind fun c =>
    scan_unseen fuel line c

end Scanner

namespace Tokenizer

theorem lineTokens_unseen (t : Tokenizer) (line : List Char) (s : State) (firstLine : Bool) :
    Recall.Unseen t.nestedRules t.remembered (t.lineTokens line s firstLine)
      (t.lineTokens line s firstLine) := by
  unfold lineTokens
  exact (t.scanner.scanLine_unseen _ _ _ _).bind fun _ => unseen_pure _

theorem tokenizeLine_fst (t : Tokenizer) (line : List Char) (s : State) (firstLine : Bool) :
    (t.tokenizeLine line s firstLine).1 = t.lineTokens line s firstLine :=
  (t.lineTokens_unseen line s firstLine t.memo fun _ => rfl).1

/-- A line changes the memory only by what was right already. -/
theorem remembered_tokenizeLine (t : Tokenizer) (line : List Char) (s : State) (firstLine : Bool) :
    (t.tokenizeLine line s firstLine).2.remembered = t.remembered :=
  funext (t.lineTokens_unseen line s firstLine t.memo fun _ => rfl).2

end Tokenizer

end Scopelight
