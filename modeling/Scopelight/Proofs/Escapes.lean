import Scopelight.Proofs.DeadAnchors
import Scopelight.Proofs.References

/-!
# Anchors are read and replaced alike

A pattern is looked through for an anchor and rewritten without it by two readers of escapes. Both
take the text in the same escape units (`hasEscape_iff_mem`, `replaceEscape_eq_flatMap`), and a
replacement without backslashes leaves all other units as they are (`escapeUnits_replaceEscape`). So
the two agree on every run of backslashes, however often the text has been rewritten, and a search
depends only on anchors that the pattern has (`escapes_read_alike`).
-/

namespace Scopelight

open Text

/-- The letter stands behind an odd number of backslashes. -/
def EscapedIn (letter : Char) (cs : List Char) : Prop :=
  ∃ before k after, cs = before ++ (List.replicate (2 * k + 1) '\\' ++ letter :: after) ∧
    before.getLast? ≠ some '\\'

section Units

variable {letter : Char} {r : List Char}

theorem hasEscape_iff_mem (letter : Char) (cs : List Char) :
    hasEscape letter cs = true ↔ ['\\', letter] ∈ escapeUnits cs := by
  fun_induction escapeUnits cs with
  | case1 c cs ih => simp [hasEscape, ih, eq_comm (a := c)]
  | case2 c cs hne ih =>
    rw [hasEscape.eq_3 _ _ _ fun d ds hc hcs => hne d ds hc hcs, ih]
    simp
  | case3 => simp [hasEscape]

theorem replaceEscape_eq_flatMap (letter : Char) (r cs : List Char) :
    replaceEscape letter r cs =
      (escapeUnits cs).flatMap fun u => if u = ['\\', letter] then r else u := by
  fun_induction escapeUnits cs with
  | case1 c cs ih => simp [replaceEscape, ih]
  | case2 c cs hne ih =>
    rw [replaceEscape.eq_3 _ _ _ _ fun d ds hc hcs => hne d ds hc hcs, ih]
    simp
  | case3 => simp [replaceEscape]

/-- Without backslashes each character is a unit of its own. -/
theorem escapeUnits_append (hr : '\\' ∉ r) (cs : List Char) :
    escapeUnits (r ++ cs) = r.map ([·]) ++ escapeUnits cs := by
  induction r with
  | nil => rfl
  | cons c r ih =>
    rw [List.mem_cons, not_or] at hr
    rw [List.cons_append, escapeUnits_of_ne (Ne.symm hr.1), ih hr.2, List.map_cons, List.cons_append]

theorem escapeUnits_replaceEscape (hr : '\\' ∉ r) (letter : Char) (cs : List Char) :
    escapeUnits (replaceEscape letter r cs) =
      (escapeUnits cs).flatMap fun u => if u = ['\\', letter] then r.map ([·]) else [u] := by
  fun_induction escapeUnits cs with
  | case1 c cs ih =>
    rw [replaceEscape, List.flatMap_cons, ← ih]
    by_cases hc : c = letter
    · simp [hc, escapeUnits_append hr]
    · simp [hc, escapeUnits]
  | case2 c cs hne ih =>
    rw [replaceEscape.eq_3 _ _ _ _ fun d ds hc hcs => hne d ds hc hcs, List.flatMap_cons, ← ih]
    by_cases hc : c = '\\'
    · -- A backslash that is no unit with a character behind it is the last one.
      subst hc
      rcases cs with _ | ⟨d, cs⟩
      · rfl
      · exact absurd rfl (hne d cs rfl)
    · rw [escapeUnits_of_ne hc]
      simp
  | case3 => rfl

theorem hasEscape_replaceEscape (hr : '\\' ∉ r) (letter v : Char) (cs : List Char) :
    hasEscape v (replaceEscape letter r cs) = (v != letter && hasEscape v cs) := by
  rw [Bool.eq_iff_iff, Bool.and_eq_true, hasEscape_iff_mem, hasEscape_iff_mem,
    escapeUnits_replaceEscape hr, List.mem_flatMap, bne_iff_ne]
  constructor
  · rintro ⟨u, hu, hv⟩
    split_ifs at hv with hletter
    · simp at hv
    · obtain rfl := List.mem_singleton.1 hv
      exact ⟨fun h => hletter (h ▸ rfl), hu⟩
  · rintro ⟨hne, hv⟩
    exact ⟨_, hv, by simp [hne]⟩

/-- Two letters may be replaced in either order. -/
theorem replaceEscape_comm {v w : Char} (hne : v ≠ w) {s : List Char} (hr : '\\' ∉ r)
    (hs : '\\' ∉ s) (cs : List Char) :
    replaceEscape v s (replaceEscape w r cs) = replaceEscape w r (replaceEscape v s cs) := by
  have hsingle (t t' : List Char) (letter : Char) :
      (t.map ([·])).flatMap (fun u => if u = ['\\', letter] then t' else u) = t := by
    simp [List.flatMap_map]
  rw [replaceEscape_eq_flatMap v s (replaceEscape w r cs), escapeUnits_replaceEscape hr,
    replaceEscape_eq_flatMap w r (replaceEscape v s cs), escapeUnits_replaceEscape hs,
    List.flatMap_assoc, List.flatMap_assoc]
  congr 1
  funext u
  by_cases hv : u = ['\\', v]
  · simp [hv, hne, hsingle]
  · by_cases hw : u = ['\\', w] <;> simp [hv, hw, hne.symm, hsingle]

end Units

/-! ## Runs of backslashes -/

section Runs

variable {letter : Char} {cs : List Char}

theorem hasEscape_run (letter : Char) (after : List Char) : ∀ k,
    hasEscape letter (List.replicate (2 * k + 1) '\\' ++ letter :: after) = true
  | 0 => by simp [hasEscape]
  | k + 1 => by
    have ih := hasEscape_run letter after k
    have hrun : List.replicate (2 * (k + 1) + 1) '\\' =
        '\\' :: '\\' :: List.replicate (2 * k + 1) '\\' := rfl
    rw [hrun, List.cons_append, List.cons_append, hasEscape, ih, Bool.or_true]

theorem hasEscape_append {before : List Char} (hlast : before.getLast? ≠ some '\\')
    (h : hasEscape letter cs = true) : hasEscape letter (before ++ cs) = true := by
  fun_induction hasEscape letter before with
  | case1 c us ih =>
    rw [List.cons_append, List.cons_append, hasEscape, Bool.or_eq_true]
    refine .inr (ih ?_)
    rcases us with _ | ⟨d, us⟩
    · simp
    · simpa using hlast
  | case2 => exact h
  | case3 c us hne ih =>
    have hc : c ≠ '\\' := by
      rintro rfl
      rcases us with _ | ⟨d, us⟩
      · exact hlast rfl
      · exact hne d us rfl rfl
    rw [List.cons_append, hasEscape_cons hc]
    refine ih ?_
    rcases us with _ | ⟨d, us⟩
    · simp
    · simpa using hlast

theorem hasEscape_iff_escapedIn (hletter : letter ≠ '\\') :
    hasEscape letter cs = true ↔ EscapedIn letter cs := by
  constructor
  · intro h
    fun_induction hasEscape letter cs with
    | case1 c cs ih =>
      rcases Bool.or_eq_true_iff.1 h with hc | h
      · obtain rfl : c = letter := by simpa using hc
        exact ⟨[], 0, cs, rfl, by simp⟩
      · obtain ⟨before, k, after, rfl, hlast⟩ := ih h
        by_cases hc : c = '\\' ∧ before = []
        · -- Two more backslashes belong to the run.
          obtain ⟨rfl, rfl⟩ := hc
          exact ⟨[], k + 1, after, rfl, hlast⟩
        · refine ⟨'\\' :: c :: before, k, after, rfl, ?_⟩
          rcases before with _ | ⟨d, before⟩
          · simpa using hc
          · simpa using hlast
    | case2 => cases h
    | case3 c cs hne ih =>
      obtain ⟨before, k, after, rfl, hlast⟩ := ih h
      have hc : c ≠ '\\' := by
        rintro rfl
        rcases before with _ | ⟨d, before⟩ <;> exact hne _ _ rfl rfl
      refine ⟨c :: before, k, after, rfl, ?_⟩
      rcases before with _ | ⟨d, before⟩
      · simpa using hc
      · simpa using hlast
  · rintro ⟨before, k, after, rfl, hlast⟩
    exact hasEscape_append hlast (hasEscape_run letter after k)

end Runs

/-! ## Searches -/

namespace Pattern

variable {source : String} {p : Pattern} {killStart killAnchor : Bool}

theorem variantText_of_no_start (h : hasEscape 'A' source.toList = false) :
    variantText source killStart killAnchor = variantText source false killAnchor := by
  cases killStart <;> simp [variantText, replaceEscape_of_not_hasEscape h]

theorem variantText_of_no_anchor (h : hasEscape 'G' source.toList = false) :
    variantText source killStart killAnchor = variantText source killStart false := by
  have hreplaced : hasEscape 'G' (replaceEscape 'A' [deadAnchor] source.toList) = false := by
    rw [hasEscape_replaceEscape (by decide), h, Bool.and_false]
  cases killStart <;> cases killAnchor <;>
    simp [variantText, replaceEscape_of_not_hasEscape, h, hreplaced]

/-- A search reads no more of its anchors than the text of the variant shows. -/
theorem search_congr (hp : compile source = .ok p) {a a' : Anchors} {origin : Nat}
    (h : variantText source (!a.documentStart) (a.anchor != some origin) =
      variantText source (!a'.documentStart) (a'.anchor != some origin)) (text : Array Char) :
    p.search text origin a = p.search text origin a' := by
  have hvariant := readAs_variant hp a origin
  rw [h, readAs_variant hp a' origin] at hvariant
  rw [search, search, Except.ok.inj hvariant]

theorem searchBytes_congr {documentStart documentStart' : Bool} {anchor anchor' : Option Nat}
    {origin : Nat} (h : ∀ text i,
      p.search text i ⟨documentStart, if anchor = some origin then some i else none⟩ =
        p.search text i ⟨documentStart', if anchor' = some origin then some i else none⟩)
    (u : String) (exact : Bool) : p.searchBytes u origin documentStart anchor exact =
      p.searchBytes u origin documentStart' anchor' exact := by
  simp only [searchBytes, matchAt, h]

/-- Of the anchors of a search, only what is seen of them matters. -/
def SearchesBy {β : Type} (p : Pattern) (seen : Anchors → β) : Prop :=
  ∀ text origin a a', seen a = seen a' → p.search text origin a = p.search text origin a'

theorem searchesBy_anchor (hp : compile source = .ok p) (h : ¬ EscapedIn 'A' source.toList) :
    p.SearchesBy Anchors.anchor := by
  rw [← hasEscape_iff_escapedIn (by decide), Bool.not_eq_true] at h
  intro text origin a a' ha
  refine search_congr hp ?_ text
  rw [ha]
  exact (variantText_of_no_start h).trans (variantText_of_no_start h).symm

theorem searchesBy_documentStart (hp : compile source = .ok p)
    (h : ¬ EscapedIn 'G' source.toList) : p.SearchesBy Anchors.documentStart := by
  rw [← hasEscape_iff_escapedIn (by decide), Bool.not_eq_true] at h
  intro text origin a a' ha
  refine search_congr hp ?_ text
  rw [ha]
  exact (variantText_of_no_anchor h).trans (variantText_of_no_anchor h).symm

/-- Whether a letter is escaped somewhere and what its escapes are replaced by are read from a text
alike: the text changes just if it has such an escape, none is left, and all other escapes stay as
they are. So the order does not matter in which anchors are replaced, and a search does not depend on
an anchor that stands nowhere behind an odd number of backslashes. -/
theorem escapes_read_alike {r : List Char} (hr : '\\' ∉ r) (letter : Char) (cs : List Char) :
    (replaceEscape letter r cs ≠ cs ↔ hasEscape letter cs = true) ∧
    hasEscape letter (replaceEscape letter r cs) = false ∧
    (∀ v, v ≠ letter → hasEscape v (replaceEscape letter r cs) = hasEscape v cs) ∧
    replaceEscape 'A' r (replaceEscape 'G' r cs) = replaceEscape 'G' r (replaceEscape 'A' r cs) ∧
    ∀ source p, compile source = .ok p →
      (¬ EscapedIn 'A' source.toList → p.SearchesBy Anchors.anchor ∧
        ∀ u origin start start' anchor exact,
          p.searchBytes u origin start anchor exact = p.searchBytes u origin start' anchor exact) ∧
      (¬ EscapedIn 'G' source.toList → p.SearchesBy Anchors.documentStart ∧
        ∀ u origin start anchor anchor' exact,
          p.searchBytes u origin start anchor exact = p.searchBytes u origin start anchor' exact) := by
  have hnone : hasEscape letter (replaceEscape letter r cs) = false := by
    rw [hasEscape_replaceEscape hr, bne_self_eq_false, Bool.false_and]
  refine ⟨⟨fun hne => ?_, fun h heq => ?_⟩, hnone, fun v hv => ?_,
    replaceEscape_comm (by decide) hr hr cs, fun source p hp => ⟨fun h => ?_, fun h => ?_⟩⟩
  · by_contra h
    exact hne (replaceEscape_of_not_hasEscape (Bool.not_eq_true _ ▸ h))
  · rw [heq, h] at hnone
    cases hnone
  · rw [hasEscape_replaceEscape hr, bne_iff_ne.2 hv, Bool.true_and]
  · have hsearch := searchesBy_anchor hp h
    refine ⟨hsearch, fun u origin start start' anchor exact => ?_⟩
    exact searchBytes_congr (fun text i => hsearch text i _ _ (by rfl)) u exact
  · have hsearch := searchesBy_documentStart hp h
    refine ⟨hsearch, fun u origin start anchor anchor' exact => ?_⟩
    exact searchBytes_congr (fun text i => hsearch text i _ _ (by rfl)) u exact

/-- Behind two backslashes a letter is no anchor, behind three it is, and the last backslash is none
with anything. -/
theorem escapes_in_runs :
    '\\' ∉ [deadAnchor] ∧
    hasEscape 'A' "\\\\A\\\\\\A\\".toList = true ∧
    replaceEscape 'A' [deadAnchor] "\\\\A\\\\\\A\\".toList = "\\\\A\\\\\uffff\\".toList ∧
    replaceEscape 'A' [deadAnchor] "\\\\A\\\\\\A\\".toList ≠ "\\\\A\\\\\\A\\".toList ∧
    ∃ p, compile "\\\\A\\Gx" = .ok p ∧ ¬ EscapedIn 'A' "\\\\A\\Gx".toList ∧
      p.searchBytes "\\Ax" 0 true (some 0) false = p.searchBytes "\\Ax" 0 false (some 0) false := by
  have hr : '\\' ∉ [deadAnchor] := by decide
  have hescape : hasEscape 'A' "\\\\A\\\\\\A\\".toList = true := by decide
  have hnone : ¬ EscapedIn 'A' "\\\\A\\Gx".toList := by
    rw [← hasEscape_iff_escapedIn (by decide)]
    decide
  obtain ⟨p, hp, -⟩ :=
    exists_ok_of_any (x := compile "\\\\A\\Gx") (p := fun _ => true) (by decide)
  obtain ⟨hchanges, -, -, -, hsearch⟩ := escapes_read_alike hr 'A' "\\\\A\\\\\\A\\".toList
  exact ⟨hr, hescape, by decide, hchanges.2 hescape, p, hp, hnone,
    ((hsearch _ p hp).1 hnone).2 _ _ _ _ _ _⟩

end Pattern

end Scopelight
