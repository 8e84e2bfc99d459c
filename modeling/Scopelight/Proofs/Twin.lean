import Scopelight.Proofs.Follow

/-!
# The same grammars at other places

Where the grammars of a registry stand in it shows in states only. If all grammars that a tokenizer
works with stand in another registry too, captures included, then the tokenizer there makes the same
tokens of every document, or fails with the same error (`Twin.tokenizeFrom`).
-/

namespace Scopelight

/-! ## Lines -/

/-- The answers for a line compare if they come from outputs that do, and lead to the same state at
its own places. -/
inductive Comparison.Answers (k : Comparison) (line : List Char) :
    List Token × State → List Token × State → Prop
  | mk {o o' : Output} {s : State} (ho : k.outputs o o') (hs : s.Known k.known) :
    k.Answers line (realTokens line o.tokens.reverse, s)
      (realTokens line o'.tokens.reverse, s.move k.place)

theorem Scanner.Follows.lineTokens {k : Comparison} {t t' : Tokenizer}
    (h : t.scanner.Follows k t'.scanner) (hk : k.Lawful) {s : State} (hs : s.Known k.known)
    (line : List Char) (firstLine : Bool) :
    Agree k.strict (k.Answers line) (t.lineTokens line s firstLine)
      (t'.lineTokens line (s.move k.place) firstLine) := by
  refine (h.scanLine hk hs stepLimit (matchedLine line) firstLine).bind fun c c' hc => .ok ?_
  cases hc with
  | mk pos firstLine anchor hs ho =>
    rw [State.forgetPlaces_move]
    exact .mk ho hs.forgetPlaces

/-! ## The same outputs -/

/-- Nothing differs but the places of grammars. -/
def Comparison.exact (f : Nat → Nat) (known : Nat → Prop) : Comparison where
  place := f
  known
  captures := id
  strict := True
  outputs := Eq

section Exact

variable {f : Nat → Nat} {known : Nat → Prop}

theorem emitGroups_move {again again' : Retokenize} {s : State} {line : Array Char} {grammar : Nat}
    {m : Regex.Match} {firstLine : Bool} (ha : again.Follows (.exact f known) again')
    (hs : s.Known known) (hgrammar : known grammar) (rules : CaptureRules)
    (open_ : List OpenCapture) (o : Output) :
    emitGroups again' (s.move f) line (f grammar) m firstLine rules open_ o =
      emitGroups again s line grammar m firstLine rules open_ o := by
  induction rules generalizing open_ o with
  | nil => rfl
  | cons entry rest ih =>
    obtain ⟨n, rule⟩ := entry
    simp only [emitGroups, ih, State.scopes_move]
    rcases m.group? n with _ | span
    · rfl
    simp only []
    split_ifs
    · rfl
    rcases rule.patterns with _ | patterns
    · rfl
    · have hinside : (s.push (captureFrame s line grammar m rule patterns
          (closeCaptures span.start open_ o).1 span.start)).Known known := hs.push hgrammar
      exact congrArg (· >>= _) (ha _ _ span.start _ hinside).eq

theorem lawful_exact : (Comparison.exact f known).Lawful where
  captures_nil := rfl
  start := fun _ => rfl
  produce := fun _ _ stop scopes h => congrArg (Output.produce · stop scopes) h
  emit := by
    intro again again' s line grammar rules m firstLine o o' ha hs hgrammar ho
    obtain rfl : o = o' := ho
    exact agree_of_eq (emitGroups_move ha hs hgrammar rules [] o)

end Exact

/-- The second tokenizer has the grammars of the first one at other places. -/
structure Tokenizer.Twin (f : Nat → Nat) (t t' : Tokenizer) : Prop where
  scanner : t.scanner.Follows (.exact f (· < t.registry.grammars.size)) t'.scanner
  truthful : t.Truthful
  truthful' : t'.Truthful

namespace Tokenizer

section Twin

variable {f : Nat → Nat} {t t' : Tokenizer} {s : State}

theorem Twin.lineTokens (h : t.Twin f t') (hs : s.Known (· < t.registry.grammars.size))
    (line : List Char) (firstLine : Bool) :
    Agree True (fun a b => b = (a.1, a.2.move f) ∧ a.2.Known (· < t.registry.grammars.size))
      (t.lineTokens line s firstLine) (t'.lineTokens line (s.move f) firstLine) := by
  refine (h.scanner.lineTokens lawful_exact hs line firstLine).mono fun a b hab => ?_
  cases hab with
  | mk ho hs =>
    cases ho
    exact ⟨rfl, hs⟩

theorem Twin.tokenizeFrom (h : t.Twin f t') (hs : s.Known (· < t.registry.grammars.size))
    (firstLine : Bool) (lines : List Text.Line) :
    t'.tokenizeFrom (s.move f) firstLine lines = t.tokenizeFrom s firstLine lines := by
  rw [h.truthful.tokenizeFrom_eq, h.truthful'.tokenizeFrom_eq]
  induction lines generalizing s firstLine with
  | nil => rfl
  | cons line lines ih =>
    have hline := h.lineTokens hs line.text firstLine
    rw [h.truthful.lineTokens_eq, h.truthful'.lineTokens_eq] at hline
    rcases hl : t.forget.lineTokens line.text s firstLine with e | ⟨tokens, next⟩
    · rw [tokenizeFrom_of_error hl, tokenizeFrom_of_error (hline.error_of hl)]
    · obtain ⟨b, hl', rfl, hnext⟩ := hline.exists_ok hl
      rw [tokenizeFrom_of_ok hl, tokenizeFrom_of_ok hl', ih hnext]

end Twin

end Tokenizer

/-! ## Registries -/

namespace Registry

/-- All grammars of the first registry stand in the second one, and so does what their rules
include. -/
structure Embeds (f : Nat → Nat) (r r' : Registry) : Prop where
  injective : Function.Injective f
  grammar : ∀ id < r.grammars.size, r'.grammar? (f id) = r.grammar? id
  idOf : ∀ scope, r.Includes scope → r'.idOf? scope = (r.idOf? scope).map f

section Embeds

variable {f : Nat → Nat} {r r' : Registry} {scope : String} {config : Config} {t : Tokenizer}

theorem tokenizerWith_of_none (h : r.idOf? scope = none) :
    r.tokenizerWith scope config = .error (.unknownScope scope) := by
  unfold tokenizerWith
  rw [h]

theorem tokenizerWith_of_some (config : Config) {base : Nat} (h : r.idOf? scope = some base) :
    ∃ t, r.tokenizerWith scope config = .ok t := by
  unfold tokenizerWith
  rw [h]
  exact ⟨_, rfl⟩

theorem Embeds.alike (h : r.Embeds f r') : r.Alike f r' where
  injective := h.injective
  grammar := fun id hid => congrArg (Option.map Grammar.bare) (h.grammar id hid)
  idOf := h.idOf

/-- A tokenizer of the first registry has a twin in the second one, unless other grammars inject
something else there. -/
theorem Embeds.twin (h : r.Embeds f r') (hid : r'.idOf? scope = (r.idOf? scope).map f)
    (hforeign : ∀ base, r.idOf? scope = some base →
      r'.foreignInjections (f base) config.includeDepth =
        moveInjections f (r.foreignInjections base config.includeDepth))
    (ht : r.tokenizerWith scope config = .ok t) :
    ∃ t', r'.tokenizerWith scope config = .ok t' ∧ t.Twin f t' ∧
      t'.initialState = t.initialState.move f ∧
      t.initialState.Known (· < t.registry.grammars.size) := by
  obtain ⟨t', ht', hbase, halike⟩ := h.alike.tokenizerWith hid hforeign ht
  obtain ⟨rfl, -⟩ := registry_of_tokenizerWith ht
  obtain ⟨rfl, -⟩ := registry_of_tokenizerWith ht'
  obtain ⟨g, hg, -, -, hinitial⟩ := grammar_of_tokenizerWith ht
  obtain ⟨g', hg', -, -, hinitial'⟩ := grammar_of_tokenizerWith ht'
  have hlt := lt_of_grammar hg
  refine ⟨t', ht', ⟨⟨halike, ?_, fun id g => lt_of_grammar⟩, truthful_of_tokenizerWith ht,
    truthful_of_tokenizerWith ht'⟩, ?_, ?_⟩
  · intro n hn
    have hmap : Grammar.mapCaptures id = id := funext Grammar.mapCaptures_id
    change t'.registry.grammar? (f n) = (t.registry.grammar? n).map (Grammar.mapCaptures id)
    rw [h.grammar n hn, hmap, Option.map_id_fun, id_eq]
  · rw [hbase, h.grammar _ hlt, hg] at hg'
    obtain rfl := Option.some.inj hg'
    rw [hinitial, hinitial', hbase]
    rfl
  · rw [hinitial]
    intro fr hfr
    obtain rfl := List.mem_singleton.1 hfr
    exact hlt

theorem Embeds.tokenize (h : r.Embeds f r') (hconfig : r'.config = r.config)
    (hid : r'.idOf? scope = (r.idOf? scope).map f)
    (hforeign : ∀ base, r.idOf? scope = some base →
      r'.foreignInjections (f base) r.config.includeDepth =
        moveInjections f (r.foreignInjections base r.config.includeDepth)) (doc : String) :
    r'.tokenize doc scope = r.tokenize doc scope := by
  have hlines : r'.tokenizeLines doc scope = r.tokenizeLines doc scope := by
    unfold tokenizeLines scanTokenizer tokenizer
    rw [hconfig]
    rcases hbase : r.idOf? scope with _ | base
    · rw [hbase] at hid
      rw [tokenizerWith_of_none hbase, tokenizerWith_of_none hid]
    · obtain ⟨t, ht⟩ := tokenizerWith_of_some r.config hbase
      obtain ⟨t', ht', htwin, hinitial, hknown⟩ := h.twin hid hforeign ht
      rw [ht, ht']
      change t'.tokenizeFrom t'.initialState true (Text.linesOf doc) =
        t.tokenizeFrom t.initialState true (Text.linesOf doc)
      rw [hinitial, htwin.tokenizeFrom hknown]
  unfold Registry.tokenize
  rw [hlines]

end Embeds

end Registry

end Scopelight
