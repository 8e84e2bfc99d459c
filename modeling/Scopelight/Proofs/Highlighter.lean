import Scopelight.Highlighter
import Scopelight.Proofs.Memory

/-!
# Highlighting again is tokenizing

Every line that a highlighter remembers has the tokens and the next state that tokenizing its text in
its state gives, at the place where it is remembered (`Highlighter.Sound`). A pass, whole or broken
off, keeps that, since it puts only such lines into the cache and moves none. So what is taken over
is what would have been made, and a pass answers as if nothing were remembered
(`highlight_eq_tokenize`).
-/

namespace Scopelight

open Text

theorem CachedLine.of_fits {cache : List CachedLine} {text : List Char} {s : State} {c : CachedLine}
    (h : cache.head?.filter (·.fits text s) = some c) : c.text = text ∧ c.start = s := by
  have := (Option.filter_eq_some_iff.1 h).2
  simpa [CachedLine.fits] using this

namespace Tokenizer

/-- Remembered lines have the tokens and the next states that tokenizing them gives; only the first
of them may be the first line of a document. -/
def Knows (t : Tokenizer) : Bool → List CachedLine → Prop
  | _, [] => True
  | firstLine, c :: cs =>
    t.lineTokens c.text c.start firstLine = .ok (c.tokens, c.stop) ∧ t.Knows false cs

theorem Knows.tail {t : Tokenizer} {firstLine : Bool} :
    ∀ {cs : List CachedLine}, t.Knows firstLine cs → t.Knows false (cs.drop 1)
  | [], _ => trivial
  | _ :: _, h => h.2

theorem Knows.take {t : Tokenizer} :
    ∀ {firstLine : Bool} {cs : List CachedLine} (n : Nat), t.Knows firstLine cs →
      t.Knows firstLine (cs.take n)
  | _, [], n, _ => by simp [Knows]
  | _, _ :: _, 0, _ => trivial
  | _, _ :: _, n + 1, h => ⟨h.1, h.2.take n⟩

theorem Knows.lineTokens_of_fits {t : Tokenizer} {firstLine : Bool} {cs : List CachedLine}
    {text : List Char} {s : State} {c : CachedLine} (h : t.Knows firstLine cs)
    (hc : cs.head?.filter (·.fits text s) = some c) :
    t.lineTokens text s firstLine = .ok (c.tokens, c.stop) := by
  rcases cs with _ | ⟨c', cs⟩
  · simp at hc
  · obtain ⟨rfl, rfl⟩ := CachedLine.of_fits hc
    obtain rfl : c' = c := by simpa using (Option.filter_eq_some_iff.1 hc).1
    exact h.1

section Pass

variable {t : Tokenizer} {s : State} {firstLine : Bool} {line : Line} {lines : List Line}
  {cache : List CachedLine}

theorem pass_of_fits {c : CachedLine} (h : cache.head?.filter (·.fits line.text s) = some c) :
    t.pass s firstLine (line :: lines) cache =
      (t.pass c.stop false lines (cache.drop 1)).cons line.offset c false := by
  rw [pass, h]

theorem pass_of_error {e : Failure} (ht : t.Truthful)
    (h : cache.head?.filter (·.fits line.text s) = none)
    (hl : t.forget.lineTokens line.text s firstLine = .error e) :
    t.pass s firstLine (line :: lines) cache = ⟨.error e, cache, 0⟩ := by
  rw [← ht.tokenizeLine_fst] at hl
  rw [pass, h]
  simp only [hl]

theorem pass_of_ok {tokens : List Token} {next : State} (ht : t.Truthful)
    (h : cache.head?.filter (·.fits line.text s) = none)
    (hl : t.forget.lineTokens line.text s firstLine = .ok (tokens, next)) :
    t.pass s firstLine (line :: lines) cache =
      ((t.tokenizeLine line.text s firstLine).2.pass next false lines (cache.drop 1)).cons
        line.offset ⟨line.text, s, next, tokens⟩ true := by
  rw [← ht.tokenizeLine_fst] at hl
  rw [pass, h]
  simp only [hl]

end Pass

theorem answer_cons (p : Pass) (offset : Nat) (c : CachedLine) (fresh : Bool) :
    (p.cons offset c fresh).answer = (shiftTokens offset c.tokens ++ ·) <$> p.answer := rfl

/-- A pass with remembered lines answers as tokenizing does, and remembers only what is known. -/
theorem pass_eq {t : Tokenizer} (ht : t.Truthful) (s : State) (firstLine : Bool)
    (lines : List Line) {cache : List CachedLine} (hc : t.forget.Knows firstLine cache) :
    (t.pass s firstLine lines cache).answer =
        documentTokens <$> t.forget.tokenizeFrom s firstLine lines ∧
      t.forget.Knows firstLine (t.pass s firstLine lines cache).cache := by
  induction lines generalizing t s firstLine cache with
  | nil => exact ⟨rfl, trivial⟩
  | cons line lines ih =>
    rcases hfit : cache.head?.filter (·.fits line.text s) with _ | c
    · rcases hl : t.forget.lineTokens line.text s firstLine with e | ⟨tokens, next⟩
      · rw [pass_of_error ht hfit hl, tokenizeFrom_of_error hl]
        exact ⟨rfl, hc⟩
      · obtain ⟨ha, hk⟩ := ih (ht.tokenizeLine line.text s firstLine) next false hc.tail
        rw [forget_tokenizeLine] at ha hk
        rw [pass_of_ok ht hfit hl, tokenizeFrom_of_ok hl, documentTokens_map_cons, answer_cons, ha]
        exact ⟨rfl, hl, hk⟩
    · obtain ⟨htext, hstart⟩ := CachedLine.of_fits hfit
      obtain ⟨ha, hk⟩ := ih ht c.stop false hc.tail
      have hl := hc.lineTokens_of_fits hfit
      rw [pass_of_fits hfit, tokenizeFrom_of_ok hl, documentTokens_map_cons, answer_cons, ha]
      exact ⟨rfl, by rwa [htext, hstart], hk⟩

end Tokenizer

namespace Highlighter

/-- What can be done with a highlighter. -/
inductive Operation where
  | highlight (doc : String)
  | invalidateFrom (line : Nat)
  | invalidateAll
  | setRegistry (registry : Registry)

/-- The highlighter after an operation. A registry without the scope is refused, and the highlighter
stays as it is. -/
def perform (h : Highlighter) : Operation → Highlighter
  | .highlight doc => (h.highlight doc).2
  | .invalidateFrom line => h.invalidateFrom line
  | .invalidateAll => h.invalidateAll
  | .setRegistry registry =>
    match h.setRegistry registry with
    | .ok h => h
    | .error _ => h

/-- The registry in force after some operations: the last one that has the scope. -/
def registryAfter (scope : String) : Registry → List Operation → Registry
  | r, [] => r
  | r, .setRegistry r' :: ops => registryAfter scope (if (r'.idOf? scope).isSome then r' else r) ops
  | r, _ :: ops => registryAfter scope r ops

/-- All remembered lines are as a new tokenizer would make them. -/
def Sound (h : Highlighter) : Prop :=
  ∀ t, h.registry.tokenizer h.scope = .ok t → t.Knows true h.cache

theorem sound_of_cache_nil {h : Highlighter} (hc : h.cache = []) : h.Sound := by
  intro t _
  rw [hc]
  trivial

section Highlight

variable {h : Highlighter} {t : Tokenizer}

theorem highlight_of_error {e : GrammarError} (ht : h.registry.tokenizer h.scope = .error e)
    (doc : String) : h.highlight doc = (.error (.grammar e), h) := by
  unfold highlight Registry.scanTokenizer
  rw [ht]
  rfl

theorem highlight_of_ok (ht : h.registry.tokenizer h.scope = .ok t) (doc : String) :
    let p := t.pass t.initialState true (linesOf doc) h.cache
    h.highlight doc = (p.answer, { h with cache := p.cache, retokenized := p.retokenized }) := by
  unfold highlight Registry.scanTokenizer
  rw [ht]
  rfl

end Highlight

/-- A pass of a sound highlighter answers as tokenizing does and leaves it sound. -/
theorem Sound.highlight {h : Highlighter} (hs : h.Sound) (doc : String) :
    (h.highlight doc).1 = h.registry.tokenize doc h.scope ∧ (h.highlight doc).2.Sound := by
  rcases ht : h.registry.tokenizer h.scope with e | t
  · rw [highlight_of_error ht, Registry.tokenize_of_error ht]
    exact ⟨rfl, hs⟩
  · have hf := Registry.forget_of_tokenizerWith ht
    have hk : t.forget.Knows true h.cache := by
      rw [hf]
      exact hs t ht
    obtain ⟨ha, hk'⟩ := Tokenizer.pass_eq (Registry.truthful_of_tokenizerWith ht) t.initialState
      true (linesOf doc) hk
    rw [hf] at ha hk'
    rw [highlight_of_ok ht, Registry.tokenize_of_ok ht]
    refine ⟨ha, fun u hu => ?_⟩
    obtain rfl : t = u := Except.ok.inj (ht.symm.trans hu)
    exact hk'

theorem highlight_registry_scope (h : Highlighter) (doc : String) :
    (h.highlight doc).2.registry = h.registry ∧ (h.highlight doc).2.scope = h.scope := by
  unfold highlight
  split <;> exact ⟨rfl, rfl⟩

theorem Sound.perform {h : Highlighter} (hs : h.Sound) (op : Operation) : (h.perform op).Sound := by
  cases op with
  | highlight doc => exact (hs.highlight doc).2
  | invalidateFrom line => exact fun t ht => (hs t ht).take line
  | invalidateAll => exact sound_of_cache_nil rfl
  | setRegistry registry =>
    simp only [Highlighter.perform, setRegistry]
    split_ifs
    · exact sound_of_cache_nil rfl
    · exact hs

theorem perform_scope (h : Highlighter) (op : Operation) : (h.perform op).scope = h.scope := by
  cases op with
  | highlight doc => exact (highlight_registry_scope h doc).2
  | invalidateFrom line => rfl
  | invalidateAll => rfl
  | setRegistry registry =>
    simp only [perform, setRegistry]
    split_ifs <;> rfl

theorem registryAfter_cons (h : Highlighter) (op : Operation) (ops : List Operation) :
    registryAfter h.scope h.registry (op :: ops) =
      registryAfter h.scope (h.perform op).registry ops := by
  cases op with
  | highlight doc => rw [perform, (highlight_registry_scope h doc).1, registryAfter]; simp
  | invalidateFrom line => rfl
  | invalidateAll => rfl
  | setRegistry registry =>
    simp only [perform, setRegistry, registryAfter]
    split_ifs <;> rfl

/-- After any operations a highlighter is sound, and works with the registry in force. -/
theorem Sound.foldl_perform (ops : List Operation) :
    ∀ {h : Highlighter}, h.Sound → (ops.foldl Highlighter.perform h).Sound ∧
      (ops.foldl Highlighter.perform h).scope = h.scope ∧
      (ops.foldl Highlighter.perform h).registry = registryAfter h.scope h.registry ops := by
  induction ops with
  | nil => exact fun hs => ⟨hs, rfl, rfl⟩
  | cons op ops ih =>
    intro h hs
    obtain ⟨hs', hscope, hreg⟩ := ih (hs.perform op)
    rw [List.foldl_cons, registryAfter_cons, ← perform_scope h op]
    exact ⟨hs', hscope, hreg⟩

/-- Whatever was done with a highlighter, broken off passes and refused registries included, it gives
a document the tokens, or the error, that tokenizing the document once gives. -/
theorem highlight_eq_tokenize {registry : Registry} {scope : String} {h : Highlighter}
    (hc : create registry scope = .ok h) (ops : List Operation) (doc : String) :
    ((ops.foldl perform h).highlight doc).1 =
      (registryAfter scope registry ops).tokenize doc scope := by
  unfold create at hc
  split_ifs at hc
  obtain rfl := Except.ok.inj hc
  have hs : Sound ⟨registry, scope, [], 0⟩ := sound_of_cache_nil rfl
  obtain ⟨hs', hscope, hreg⟩ := hs.foldl_perform ops
  rw [(hs'.highlight doc).1, hscope, hreg]

/-- A pass that breaks off on its second line, an edit and a refused registry do not show. -/
theorem highlight_after_broken_pass :
    create sampleRegistry "source.sample" = .ok ⟨sampleRegistry, "source.sample", [], 0⟩ ∧
      (highlight ⟨sampleRegistry, "source.sample", [], 0⟩ "(1\nx0\n)").1.isOk = false ∧
      (([.highlight "(1\nx0\n)", .invalidateFrom 1, .setRegistry .empty].foldl perform
        ⟨sampleRegistry, "source.sample", [], 0⟩).highlight "(1\na=1").1 =
        sampleRegistry.tokenize "(1\na=1" "source.sample" := by
  have hid : (sampleRegistry.idOf? "source.sample").isSome = true := by decide +kernel
  have hc : create sampleRegistry "source.sample" = .ok ⟨sampleRegistry, "source.sample", [], 0⟩ :=
    if_pos hid
  have hreg : registryAfter "source.sample" sampleRegistry
      [.highlight "(1\nx0\n)", .invalidateFrom 1, .setRegistry .empty] = sampleRegistry := by
    simp only [registryAfter]
    rw [if_neg (by decide +kernel)]
  have h := highlight_eq_tokenize hc
    [.highlight "(1\nx0\n)", .invalidateFrom 1, .setRegistry .empty] "(1\na=1"
  rw [hreg] at h
  exact ⟨hc, by decide +kernel, h⟩

end Highlighter

end Scopelight
