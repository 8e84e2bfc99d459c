import Mathlib.Data.List.DropRight
import Scopelight.Proofs.Selectors
import Scopelight.Proofs.Words

/-!
# Excluded scopes and blanks

The terms of an alternative are read for themselves, as soon as its precedence has been taken off
(`readAlternative_between`), and so are the alternatives of a selector (`alternatives_text`). A
hyphen right before a scope excludes it. With blanks between the two, the hyphen stands alone and is
dropped, and the scope is one that the path must have (`matches_spaced_hyphen`).
-/

namespace Scopelight

open Text

def isParen (c : Char) : Bool := c == '(' || c == ')'

/-- A hyphen that begins a term of a selector, and the scope right behind it. -/
structure HyphenedScope where
  /-- Alternatives before. -/
  before : List Char
  /-- Terms of the same alternative before, and its precedence. -/
  lead : List Char
  opens : List Char
  scope : List Char
  closes : List Char
  /-- Terms of the same alternative behind. -/
  tail : List Char
  /-- Alternatives behind. -/
  after : List Char
  before_ends : ∀ c ∈ before.getLast?, c = ','
  lead_alone : ∀ c ∈ lead, c ≠ ','
  lead_ends : (∀ c ∈ lead.getLast?, isBlank c = true) ∨
    lead.dropWhile isBlank ∈ [['L', ':'], ['R', ':']]
  opens_parens : ∀ c ∈ opens, isParen c = true
  scope_ne_nil : scope ≠ []
  scope_word : ∀ c ∈ scope, isBlank c = false ∧ c ≠ ','
  scope_begins : ∀ c ∈ scope.head?, isParen c = false ∧ c ≠ '-'
  scope_ends : ∀ c ∈ scope.getLast?, isParen c = false
  closes_parens : ∀ c ∈ closes, isParen c = true
  tail_begins : ∀ c ∈ tail.head?, isBlank c = true
  tail_alone : ∀ c ∈ tail, c ≠ ','
  after_begins : ∀ c ∈ after.head?, c = ','

namespace HyphenedScope

def name (h : HyphenedScope) : String := String.ofList h.scope

/-- The alternative that the hyphen stands in, with something between the hyphen and the scope. -/
def alternative (h : HyphenedScope) (between : List Char) : List Char :=
  h.lead ++ ((h.opens ++ '-' :: (between ++ (h.scope ++ h.closes))) ++ h.tail)

/-- The whole selector, with something between the hyphen and the scope. -/
def text (h : HyphenedScope) (between : List Char) : String :=
  String.ofList (h.before ++ (h.alternative between ++ h.after))

end HyphenedScope

/-- An alternative that includes nothing is dropped. -/
def Alternative.kept? (a : Alternative) : Option Alternative :=
  if a.included.isEmpty then none else some a

/-- The alternative that terms make. -/
def ofTerms (precedence : Precedence) (terms : List SelectorTerm) : Alternative :=
  ⟨precedence, terms.filterMap (·.included?), terms.filterMap (·.excluded?)⟩

def terms (cs : List Char) : List SelectorTerm := (words cs).map selectorTerm

def alternativesOf (cs : List Char) : List Alternative :=
  (splitAt (· == ',') cs).filterMap readAlternative

/-- The precedence at the beginning of an alternative, and the rest of it. -/
def readPrecedence : List Char → Precedence × List Char
  | 'L' :: ':' :: rest => (.left, rest)
  | 'R' :: ':' :: rest => (.right, rest)
  | rest => (.right, rest)

section Reading

variable {cs ds lead mid tail opens closes scope : List Char}

theorem readAlternative_eq (cs : List Char) : readAlternative cs =
    (ofTerms (readPrecedence (trimBlank cs)).1
      ((words (readPrecedence (trimBlank cs)).2).map selectorTerm)).kept? := by
  unfold readAlternative readPrecedence Alternative.kept? ofTerms
  rfl

theorem ofTerms_unwanted (p : Precedence) (ts us : List SelectorTerm) (scope : String) :
    ofTerms p (ts ++ [.unwanted scope] ++ us) =
      ⟨p, ts.filterMap (·.included?) ++ us.filterMap (·.included?),
        ts.filterMap (·.excluded?) ++ scope :: us.filterMap (·.excluded?)⟩ := by
  simp [ofTerms, SelectorTerm.included?, SelectorTerm.excluded?]

theorem ofTerms_wanted (p : Precedence) (ts us : List SelectorTerm) (scope : String) :
    ofTerms p (ts ++ [.nothing, .wanted scope] ++ us) =
      ⟨p, ts.filterMap (·.included?) ++ scope :: us.filterMap (·.included?),
        ts.filterMap (·.excluded?) ++ us.filterMap (·.excluded?)⟩ := by
  simp [ofTerms, SelectorTerm.included?, SelectorTerm.excluded?]

theorem readPrecedence_of_ne (h : ∀ c ∈ cs.head?, c ≠ 'L' ∧ c ≠ 'R') :
    readPrecedence cs = (.right, cs) := by
  unfold readPrecedence
  split
  · exact absurd rfl (h _ rfl).1
  · exact absurd rfl (h _ rfl).2
  · rfl

theorem readPrecedence_append (cs : List Char)
    (h : ∀ c ∈ ds.head?, c ≠ 'L' ∧ c ≠ 'R' ∧ c ≠ ':') :
    readPrecedence (cs ++ ds) = ((readPrecedence cs).1, (readPrecedence cs).2 ++ ds) := by
  match cs with
  | [] => exact readPrecedence_of_ne fun c hc => ⟨(h c hc).1, (h c hc).2.1⟩
  | [c] =>
    cases ds with
    | nil => simp
    | cons d ds =>
      have hd := (h d rfl).2.2
      simp [readPrecedence, hd]
  | c :: d :: cs =>
    unfold readPrecedence
    split <;> simp_all

theorem readPrecedence_suffix (cs : List Char) : (readPrecedence cs).2 <:+ cs := by
  unfold readPrecedence
  split
  · exact ⟨['L', ':'], rfl⟩
  · exact ⟨['R', ':'], rfl⟩
  · exact List.suffix_rfl

theorem dropWhile_append_of_head {p : Char → Bool} (cs : List Char)
    (h : ∀ c ∈ ds.head?, p c = false) : (cs ++ ds).dropWhile p = cs.dropWhile p ++ ds := by
  rw [List.dropWhile_append]
  split
  · next hnil =>
    rw [List.isEmpty_iff.1 hnil, List.nil_append]
    cases ds with
    | nil => rfl
    | cons d ds => rw [List.dropWhile_cons_of_neg]; simp [h d rfl]
  · rfl

theorem dropWhile_append_of_pos_of_head {p : Char → Bool} (hcs : ∀ c ∈ cs, p c = true)
    (hds : ∀ c ∈ ds.head?, p c = false) : (cs ++ ds).dropWhile p = ds := by
  rw [dropWhile_append_of_head cs hds, List.dropWhile_eq_nil_iff.2 hcs, List.nil_append]

theorem trimBoth_between {p : Char → Bool} (hopens : ∀ c ∈ opens, p c = true) (hne : mid ≠ [])
    (hhead : ∀ c ∈ mid.head?, p c = false) (hlast : ∀ c ∈ mid.getLast?, p c = false)
    (hcloses : ∀ c ∈ closes, p c = true) : trimBoth p (opens ++ (mid ++ closes)) = mid := by
  have hfront : (opens ++ (mid ++ closes)).dropWhile p = mid ++ closes :=
    dropWhile_append_of_pos_of_head hopens fun c hc =>
      hhead c (by rwa [List.head?_append_of_ne_nil _ hne] at hc)
  have hback : (mid ++ closes).reverse.dropWhile p = mid.reverse := by
    rw [List.reverse_append]
    exact dropWhile_append_of_pos_of_head (fun c hc => hcloses c (List.mem_reverse.1 hc))
      fun c hc => hlast c (by rwa [List.head?_reverse] at hc)
  rw [trimBoth, hfront, hback, List.reverse_reverse]

/-- Blanks at the end of an alternative do not matter. -/
theorem words_readPrecedence_trimBlank (cs : List Char) :
    (readPrecedence (trimBlank cs)).1 = (readPrecedence (cs.dropWhile isBlank)).1 ∧
      words (readPrecedence (trimBlank cs)).2 =
        words (readPrecedence (cs.dropWhile isBlank)).2 := by
  have hblank : ∀ c ∈ (cs.dropWhile isBlank).rtakeWhile isBlank, isBlank c = true :=
    fun c hc => List.mem_rtakeWhile_imp hc
  have hmark : ∀ c ∈ ((cs.dropWhile isBlank).rtakeWhile isBlank).head?,
      c ≠ 'L' ∧ c ≠ 'R' ∧ c ≠ ':' := fun c hc => by
    have := hblank c (List.mem_of_mem_head? hc)
    refine ⟨?_, ?_, ?_⟩ <;>
      · rintro rfl
        exact absurd this (by decide)
  have happend := readPrecedence_append (trimBlank cs) hmark
  rw [show trimBlank cs ++ (cs.dropWhile isBlank).rtakeWhile isBlank = cs.dropWhile isBlank from
    List.rdropWhile_append_rtakeWhile] at happend
  rw [happend, words_append_of_head _ fun c hc => hblank c (List.mem_of_mem_head? hc),
    words_of_blank hblank, List.append_nil]
  exact ⟨rfl, rfl⟩

/-- What stands between terms is read for itself. -/
theorem readAlternative_between (hlead : (∀ c ∈ lead.getLast?, isBlank c = true) ∨
      lead.dropWhile isBlank ∈ [['L', ':'], ['R', ':']]) (hne : mid ≠ [])
    (hmid : ∀ c ∈ mid.head?, isBlank c = false ∧ c ≠ 'L' ∧ c ≠ 'R' ∧ c ≠ ':')
    (htail : ∀ c ∈ tail.head?, isBlank c = true) : readAlternative (lead ++ (mid ++ tail)) =
      (ofTerms (readPrecedence (lead.dropWhile isBlank)).1
        ((words (readPrecedence (lead.dropWhile isBlank)).2 ++ words mid ++ words tail).map
          selectorTerm)).kept? := by
  have hhead : (mid ++ tail).head? = mid.head? := List.head?_append_of_ne_nil _ hne
  have hdrop : (lead ++ (mid ++ tail)).dropWhile isBlank =
      lead.dropWhile isBlank ++ (mid ++ tail) :=
    dropWhile_append_of_head lead fun c hc => (hmid c (hhead ▸ hc)).1
  have hlast : ∀ c ∈ (readPrecedence (lead.dropWhile isBlank)).2.getLast?, isBlank c = true := by
    rcases hlead with hlead | hlead
    · intro c hc
      obtain ⟨init, hinit⟩ :=
        (readPrecedence_suffix (lead.dropWhile isBlank)).trans (List.dropWhile_suffix isBlank)
      rw [← hinit] at hlead
      exact hlead c (List.mem_getLast?_append_of_mem_getLast? hc)
    · simp only [List.mem_cons, List.not_mem_nil, or_false] at hlead
      rcases hlead with h | h <;> simp [h, readPrecedence]
  obtain ⟨hprecedence, hwords⟩ := words_readPrecedence_trimBlank (lead ++ (mid ++ tail))
  rw [hdrop, readPrecedence_append _ fun c hc => (hmid c (hhead ▸ hc)).2] at hprecedence hwords
  rw [readAlternative_eq, hprecedence, hwords, words_append_of_getLast hlast,
    words_append_of_head mid htail, List.append_assoc]

theorem selectorTerm_unwanted (hopens : ∀ c ∈ opens, isParen c = true) (hne : scope ≠ [])
    (hlast : ∀ c ∈ scope.getLast?, isParen c = false) (hcloses : ∀ c ∈ closes, isParen c = true) :
    selectorTerm (opens ++ '-' :: (scope ++ closes)) = .unwanted (String.ofList scope) := by
  have htrim : trimBoth isParen (opens ++ ('-' :: scope ++ closes)) = '-' :: scope :=
    trimBoth_between hopens (List.cons_ne_nil _ _) (by simp [isParen])
      (by rwa [List.getLast?_cons_of_ne_nil hne]) hcloses
  unfold isParen at htrim
  rw [selectorTerm, ← List.cons_append, htrim]
  obtain ⟨c, cs, rfl⟩ := List.exists_cons_of_ne_nil hne
  rfl

theorem selectorTerm_wanted (hne : scope ≠ [])
    (hhead : ∀ c ∈ scope.head?, isParen c = false ∧ c ≠ '-')
    (hlast : ∀ c ∈ scope.getLast?, isParen c = false) (hcloses : ∀ c ∈ closes, isParen c = true) :
    selectorTerm (scope ++ closes) = .wanted (String.ofList scope) := by
  have htrim : trimBoth isParen ([] ++ (scope ++ closes)) = scope :=
    trimBoth_between (by simp) hne (fun c hc => (hhead c hc).1) hlast hcloses
  unfold isParen at htrim
  rw [selectorTerm, ← List.nil_append (scope ++ closes), htrim]
  obtain ⟨c, cs, rfl⟩ := List.exists_cons_of_ne_nil hne
  have hc := (hhead c rfl).2
  split <;> simp_all

theorem selectorTerm_hyphen (hopens : ∀ c ∈ opens, isParen c = true) :
    selectorTerm (opens ++ ['-']) = .nothing := by
  have htrim : trimBoth isParen (opens ++ (['-'] ++ [])) = ['-'] :=
    trimBoth_between hopens (List.cons_ne_nil _ _) (by simp [isParen]) (by simp [isParen]) (by simp)
  unfold isParen at htrim
  rw [selectorTerm, ← List.append_nil ['-'], htrim]
  rfl

end Reading

namespace HyphenedScope

variable (h : HyphenedScope)

/-- The terms of the same alternative before the hyphen. -/
def leadTerms : List SelectorTerm := terms (readPrecedence (h.lead.dropWhile isBlank)).2

/-- The terms of the same alternative behind the scope. -/
def tailTerms : List SelectorTerm := terms h.tail

def precedence : Precedence := (readPrecedence (h.lead.dropWhile isBlank)).1

theorem readAlternative_alternative (between : List Char) :
    readAlternative (h.alternative between) =
      (ofTerms h.precedence (h.leadTerms ++
        terms (h.opens ++ '-' :: (between ++ (h.scope ++ h.closes))) ++ h.tailTerms)).kept? := by
  have hmid : ∀ c ∈ (h.opens ++ '-' :: (between ++ (h.scope ++ h.closes))).head?,
      isBlank c = false ∧ c ≠ 'L' ∧ c ≠ 'R' ∧ c ≠ ':' := fun c hc => by
    have : c = '(' ∨ c = ')' ∨ c = '-' := by
      rcases hopens : h.opens with _ | ⟨o, opens⟩
      · rw [hopens] at hc
        cases hc
        simp
      · rw [hopens] at hc
        cases hc
        have := h.opens_parens c (by simp [hopens])
        simp only [isParen, Bool.or_eq_true, beq_iff_eq] at this
        tauto
    rcases this with rfl | rfl | rfl <;> decide
  rw [alternative, readAlternative_between h.lead_ends (by simp) hmid h.tail_begins]
  simp [terms, leadTerms, tailTerms, precedence]

theorem isBlank_of_isParen {c : Char} (hc : isParen c = true) : isBlank c = false := by
  simp only [isParen, Bool.or_eq_true, beq_iff_eq] at hc
  rcases hc with rfl | rfl <;> decide

/-- Together, the hyphen and the scope are a term that excludes it. -/
theorem terms_together :
    terms (h.opens ++ '-' :: ([] ++ (h.scope ++ h.closes))) = [.unwanted h.name] := by
  have hblank : ∀ c ∈ h.opens ++ '-' :: (h.scope ++ h.closes), isBlank c = false := by
    intro c hc
    simp only [List.mem_append, List.mem_cons] at hc
    rcases hc with hc | rfl | hc | hc
    · exact isBlank_of_isParen (h.opens_parens c hc)
    · decide
    · exact (h.scope_word c hc).1
    · exact isBlank_of_isParen (h.closes_parens c hc)
  rw [terms, List.nil_append, words_of_no_blank (by simp) hblank, List.map_singleton,
    selectorTerm_unwanted h.opens_parens h.scope_ne_nil h.scope_ends h.closes_parens]
  rfl

/-- Apart, the hyphen is dropped and the scope is a term that includes it. -/
theorem terms_apart {blanks : List Char} (hne : blanks ≠ [])
    (hblank : ∀ c ∈ blanks, isBlank c = true) :
    terms (h.opens ++ '-' :: (blanks ++ (h.scope ++ h.closes))) = [.nothing, .wanted h.name] := by
  have hhyphen : ∀ c ∈ h.opens ++ ['-'], isBlank c = false := by
    intro c hc
    rcases List.mem_append.1 hc with hc | hc
    · exact isBlank_of_isParen (h.opens_parens c hc)
    · cases List.mem_singleton.1 hc
      decide
  have hscope : ∀ c ∈ h.scope ++ h.closes, isBlank c = false := by
    intro c hc
    rcases List.mem_append.1 hc with hc | hc
    · exact (h.scope_word c hc).1
    · exact isBlank_of_isParen (h.closes_parens c hc)
  have hscopes : h.scope ++ h.closes ≠ [] := by simp [h.scope_ne_nil]
  rw [terms, List.append_cons, words_append_blanks hne hblank, words_of_no_blank (by simp) hhyphen,
    words_of_no_blank hscopes hscope, List.map_append, List.map_singleton, List.map_singleton,
    selectorTerm_hyphen h.opens_parens,
    selectorTerm_wanted h.scope_ne_nil h.scope_begins h.scope_ends h.closes_parens]
  rfl

theorem alternatives_text (between : List Char) (hbetween : ∀ c ∈ between, c ≠ ',') :
    (Selector.ofString (h.text between)).alternatives =
      alternativesOf h.before ++ (readAlternative (h.alternative between)).toList ++
        alternativesOf h.after := by
  have hnil : readAlternative [] = none := rfl
  have hparen : ∀ c, isParen c = true → c ≠ ',' := by
    rintro _ hc rfl
    exact absurd hc (by decide)
  have halone : ∀ c ∈ h.alternative between, (c == ',') = false := by
    intro c hc
    rw [beq_eq_false_iff_ne]
    simp only [alternative, List.mem_append, List.mem_cons] at hc
    rcases hc with hc | (hc | rfl | hc | hc | hc) | hc
    · exact h.lead_alone c hc
    · exact hparen c (h.opens_parens c hc)
    · decide
    · exact hbetween c hc
    · exact (h.scope_word c hc).2
    · exact hparen c (h.closes_parens c hc)
    · exact h.tail_alone c hc
  rw [Selector.ofString, text, String.toList_ofList,
    filterMap_splitAt_append_of_getLast hnil (by simpa using h.before_ends),
    filterMap_splitAt_append_of_head hnil _ (by simpa using h.after_begins),
    splitAt_of_none halone, List.append_assoc]
  rcases hread : readAlternative (h.alternative between) <;> simp [alternativesOf, hread]

end HyphenedScope

/-! ## Excluded, or wanted -/

/-- Some scope of the path is covered. -/
def Covered (scope : String) (path : List String) : Prop :=
  ∃ s ∈ path, components scope <+: components s

section Paths

variable {scope : String} {path : List String} {a : Alternative} {as bs : List Alternative}

theorem Alternative.eq_of_mem_kept? {b : Alternative} (h : b ∈ a.kept?) : b = a :=
  (Option.some.inj (Option.ite_none_left_eq_some.1 h).2).symm

theorem Alternative.Admits.not_covered (h : a.Admits path) (hscope : scope ∈ a.excluded) :
    ¬Covered scope path := fun ⟨s, hs, hcovers⟩ => h.1 scope hscope s hs hcovers

theorem Alternative.Admits.covered (h : a.Admits path) (hscope : scope ∈ a.included) :
    Covered scope path := by
  obtain ⟨place, -, hplace⟩ := h.2
  obtain ⟨i, hi, rfl⟩ := List.mem_iff_getElem.1 hscope
  exact ⟨path[place ⟨i, hi⟩], List.getElem_mem _, hplace ⟨i, hi⟩⟩

namespace Selector

theorem matches_append (as bs : List Alternative) (path : List String) :
    (⟨as ++ bs⟩ : Selector).matches path =
      ((⟨as⟩ : Selector).matches path).or ((⟨bs⟩ : Selector).matches path) := by
  simp only [Selector.matches, List.find?_append, Option.map_or]

theorem matches_eq_none (h : ∀ a ∈ as, ¬a.Admits path) : (⟨as⟩ : Selector).matches path = none := by
  rw [Selector.matches, Option.map_eq_none_iff, List.find?_eq_none]
  exact fun a ha hmatches => h a ha (Alternative.matches_iff.1 hmatches)

theorem matches_singleton (h : a.Admits path) :
    (⟨[a]⟩ : Selector).matches path = some a.precedence := by
  simp [Selector.matches, Alternative.matches_iff.2 h]

theorem exists_matches_eq_some (ha : a ∈ as) (h : a.Admits path) :
    ∃ p, (⟨as⟩ : Selector).matches path = some p := by
  rw [← Option.isSome_iff_exists, Selector.matches, Option.isSome_map, List.find?_isSome]
  exact ⟨a, ha, Alternative.matches_iff.2 h⟩

/-- Where one alternative excludes a scope that another one requires, one of them never answers. So
they give the same result just if an earlier alternative does, or the later ones do what the one
that answers does, or neither of them answers. -/
theorem matches_excluding_requiring {excluding? : Option Alternative} {requiring : Alternative}
    {earlier later : List Alternative} {p : Precedence}
    (hexcluding : ∀ a ∈ excluding?, scope ∈ a.excluded ∧ a.precedence = p)
    (hrequiring : scope ∈ requiring.included) (hp : requiring.precedence = p)
    (path : List String) :
    (Covered scope path → (⟨earlier ++ excluding?.toList ++ later⟩ : Selector).matches path =
      (⟨earlier ++ later⟩ : Selector).matches path) ∧
    (¬Covered scope path → (⟨earlier ++ [requiring] ++ later⟩ : Selector).matches path =
      (⟨earlier ++ later⟩ : Selector).matches path) ∧
    ((⟨earlier ++ excluding?.toList ++ later⟩ : Selector).matches path =
        (⟨earlier ++ [requiring] ++ later⟩ : Selector).matches path ↔
      (∃ a ∈ earlier, a.Admits path) ∨ (⟨later⟩ : Selector).matches path = some p ∨
        (∀ a ∈ excluding?, ¬a.Admits path) ∧ ¬requiring.Admits path) := by
  have hexclude : (∀ a ∈ excluding?, ¬a.Admits path) →
      (⟨excluding?.toList⟩ : Selector).matches path = none := fun hnone =>
    matches_eq_none fun a ha => hnone a (Option.mem_toList.1 ha)
  have hrequire : ¬requiring.Admits path → (⟨[requiring]⟩ : Selector).matches path = none :=
    fun hnot => matches_eq_none (by simpa using hnot)
  simp only [matches_append]
  refine ⟨fun hcovered => ?_, fun hcovered => ?_, ?_⟩
  · rw [hexclude fun a ha hadmits => hadmits.not_covered (hexcluding a ha).1 hcovered,
      Option.or_none]
  · rw [hrequire fun hadmits => hcovered (hadmits.covered hrequiring), Option.or_none]
  · by_cases hearlier : ∃ a ∈ earlier, a.Admits path
    · obtain ⟨b, hb, hadmits⟩ := hearlier
      obtain ⟨q, hq⟩ := exists_matches_eq_some hb hadmits
      exact iff_of_true (by simp [hq]) (.inl ⟨b, hb, hadmits⟩)
    · have hnone := matches_eq_none fun b hb hadmits => hearlier ⟨b, hb, hadmits⟩
      rw [hnone, Option.none_or, Option.none_or, or_iff_right hearlier]
      -- The one that excludes the scope and the one that requires it never both admit the path.
      by_cases hex : ∃ a ∈ excluding?, a.Admits path
      · obtain ⟨b, rfl, hadmits⟩ := hex
        obtain ⟨hscope, rfl⟩ := hexcluding b rfl
        have hnot : ¬requiring.Admits path := fun hadmits' =>
          hadmits.not_covered hscope (hadmits'.covered hrequiring)
        rw [Option.toList_some, matches_singleton hadmits, hrequire hnot]
        simp [hadmits, eq_comm]
      · have hnot : ∀ a ∈ excluding?, ¬a.Admits path := fun b hb hadmits => hex ⟨b, hb, hadmits⟩
        rw [hexclude hnot]
        by_cases hreq : requiring.Admits path
        · rw [matches_singleton hreq, hp]
          simp [hreq]
        · rw [hrequire hreq]
          exact iff_of_true rfl (.inr ⟨hnot, hreq⟩)

end Selector

end Paths

namespace Selector

/-- A hyphen right before a scope excludes it. With blanks between the two the scope is one that the
path must have, and all else is read as before. Of the two alternatives, the one never admits a path
in which the scope is covered, and the other one no path in which it is not, so the texts give the
same result only where neither of them decides or a later alternative makes up for it. -/
theorem matches_spaced_hyphen (h : HyphenedScope) {blanks : List Char} (hne : blanks ≠ [])
    (hblank : ∀ c ∈ blanks, isBlank c = true) :
    ∃ earlier later p inc₁ inc₂ exc₁ exc₂,
      (ofString (h.text [])).alternatives = earlier ++
        (Alternative.kept? ⟨p, inc₁ ++ inc₂, exc₁ ++ h.name :: exc₂⟩).toList ++ later ∧
      (ofString (h.text blanks)).alternatives =
        earlier ++ [⟨p, inc₁ ++ h.name :: inc₂, exc₁ ++ exc₂⟩] ++ later ∧
      ∀ path,
        (Covered h.name path → (ofString (h.text [])).matches path =
          (⟨earlier ++ later⟩ : Selector).matches path) ∧
        (¬Covered h.name path → (ofString (h.text blanks)).matches path =
          (⟨earlier ++ later⟩ : Selector).matches path) ∧
        ((ofString (h.text [])).matches path = (ofString (h.text blanks)).matches path ↔
          (∃ a ∈ earlier, a.Admits path) ∨ (⟨later⟩ : Selector).matches path = some p ∨
            (∀ a ∈ Alternative.kept? ⟨p, inc₁ ++ inc₂, exc₁ ++ h.name :: exc₂⟩, ¬a.Admits path) ∧
              ¬Alternative.Admits ⟨p, inc₁ ++ h.name :: inc₂, exc₁ ++ exc₂⟩ path) := by
  have htogether := h.alternatives_text [] (by simp)
  have hapart := h.alternatives_text blanks fun c hc => by
    rintro rfl
    exact absurd (hblank _ hc) (by decide)
  rw [h.readAlternative_alternative, h.terms_together, ofTerms_unwanted] at htogether
  rw [h.readAlternative_alternative, h.terms_apart hne hblank, ofTerms_wanted] at hapart
  rw [Alternative.kept?, if_neg (by simp), Option.toList_some] at hapart
  refine ⟨_, _, _, _, _, _, _, htogether, hapart, fun path => ?_⟩
  have htext : ofString (h.text []) = ⟨_⟩ := congrArg Selector.mk htogether
  have hspaced : ofString (h.text blanks) = ⟨_⟩ := congrArg Selector.mk hapart
  rw [htext, hspaced]
  refine matches_excluding_requiring (fun a ha => ?_) (by simp) rfl path
  rw [Alternative.eq_of_mem_kept? ha]
  simp

/-- A scope that is to be excluded, behind one that must be there. -/
theorem spaced_scope_moves : ∃ h : HyphenedScope, h.text [] = "x -c" ∧ h.text [' '] = "x - c" ∧
    [' '] ≠ [] ∧ (∀ c ∈ [' '], isBlank c = true) ∧
    ∃ earlier later p inc₁ inc₂ exc₁ exc₂,
      (ofString (h.text [])).alternatives = earlier ++
        (Alternative.kept? ⟨p, inc₁ ++ inc₂, exc₁ ++ "c" :: exc₂⟩).toList ++ later ∧
      (ofString (h.text [' '])).alternatives =
        earlier ++ [⟨p, inc₁ ++ "c" :: inc₂, exc₁ ++ exc₂⟩] ++ later := by
  have hblank : ∀ c ∈ [' '], isBlank c = true := fun c hc => by
    cases List.mem_singleton.1 hc
    decide
  have hword : isBlank 'c' = false := by decide
  let h : HyphenedScope :=
    { before := [], lead := ['x', ' '], opens := [], scope := ['c'], closes := [], tail := []
      after := [], before_ends := by simp, lead_alone := by simp, lead_ends := by simp [hblank]
      opens_parens := by simp, scope_ne_nil := by simp, scope_word := by simp [hword]
      scope_begins := by simp [isParen], scope_ends := by simp [isParen], closes_parens := by simp
      tail_begins := by simp, tail_alone := by simp, after_begins := by simp }
  obtain ⟨earlier, later, p, inc₁, inc₂, exc₁, exc₂, htogether, hapart, -⟩ :=
    matches_spaced_hyphen h (List.cons_ne_nil ' ' []) hblank
  exact ⟨h, rfl, rfl, List.cons_ne_nil _ _, hblank, earlier, later, p, inc₁, inc₂, exc₁, exc₂,
    htogether, hapart⟩

/-- With a blank behind the hyphen the source is selected just where it has a comment. -/
theorem spaced_hyphen_requires :
    (ofString "source.x -comment").matches ["source.x"] = some .right ∧
      (ofString "source.x - comment").matches ["source.x"] = none ∧
      (ofString "source.x -comment").matches ["source.x", "comment.line"] = none ∧
      (ofString "source.x - comment").matches ["source.x", "comment.line"] = some .right := by
  decide +kernel

end Selector

end Scopelight
