import Scopelight.Proofs.Enclosed

/-!
# Anchors that may not match

The variant that a search picks is read from the pattern's text with the anchors replaced that may
not match there (`Pattern.readAs_variant`). Where such an anchor leads a pattern the character in
its place does, so nothing is found in a text without that character
(`Pattern.searchBytes_anchored`). It may occur in a text, and then the anchor matches after all
(`Pattern.deadAnchor_found`).
-/

namespace Scopelight

open Text

namespace Text

theorem le_byteOffset_of_position {us : List Char} {b i : Nat} (h : position? us b = some i) :
    b ≤ byteOffset us i := by
  fun_induction position? us b generalizing i
  case case1 => exact Nat.zero_le _
  case case2 => cases h
  case case3 c us b _ ih =>
    obtain ⟨j, hj, rfl⟩ := Option.map_eq_some_iff.1 h
    have hle := ih hj
    have hoffset : byteOffset (c :: us) (j + 1) = c.utf8Size + byteOffset us j := rfl
    omega

end Text

section Escapes

variable {letter : Char} {replacement : List Char}

theorem replaceEscape_of_not_hasEscape {cs : List Char} (h : hasEscape letter cs = false) :
    replaceEscape letter replacement cs = cs := by
  fun_induction replaceEscape letter replacement cs
  case case1 c cs ih => simp_all [hasEscape]
  case case2 => rfl
  case case3 c cs hne ih =>
    rw [hasEscape.eq_3 _ _ _ hne] at h
    rw [ih h]

theorem replaceEscape_cons {c : Char} (hc : c ≠ '\\') (cs : List Char) :
    replaceEscape letter replacement (c :: cs) = c :: replaceEscape letter replacement cs :=
  replaceEscape.eq_3 _ _ _ _ fun _ _ hslash => absurd hslash hc

theorem replaceEscape_append {close : Char} (hclose : close ≠ '\\') (hletter : close ≠ letter)
    (cs : List Char) : replaceEscape letter replacement (cs ++ [close]) =
      replaceEscape letter replacement cs ++ [close] := by
  fun_induction replaceEscape letter replacement cs
  case case1 c cs ih => simp [replaceEscape, ih]
  case case2 => exact replaceEscape_cons hclose []
  case case3 c cs hne ih =>
    by_cases hc : c = '\\'
    · -- A backslash at the end goes with what is put behind it.
      subst hc
      rcases cs with _ | ⟨d, cs⟩
      · simp [replaceEscape, hletter]
      · exact absurd rfl (hne d cs rfl)
    · rw [List.cons_append, replaceEscape_cons hc, ih, List.cons_append]

end Escapes

namespace Regex

theorem search_char {c : Char} {n : Node} {groups origin : Nat} {text : Array Char} {m : Match}
    (h : (⟨.seq (.char c false) n, groups⟩ : Regex).search text origin = some m) :
    ∃ i, origin ≤ i ∧ text[i]? = some c := by
  obtain ⟨start, hle, -, hs⟩ := firstFrom_some h
  obtain ⟨q, hq, -⟩ := Option.map_eq_some_iff.1 hs
  refine ⟨start, hle, ?_⟩
  rw [matchAt, Node.run, Node.run] at hq
  split at hq
  · rename_i d hd
    split_ifs at hq with hdc
    have hdc : d = c := by simpa using hdc
    rw [← hdc]
    exact hd
  · cases hq

end Regex

namespace Pattern

variable {source : String} {p q : Pattern}

theorem readPattern_of_readAs {text : String} {r : Regex} (h : readAs source text = .ok r) :
    Regex.readPattern text.toList = .ok (r.root, r.groups) := by
  unfold readAs Regex.ofString at h
  rcases hread : Regex.readPattern text.toList with e | ⟨root, groups⟩ <;> rw [hread] at h <;> cases h
  rfl

theorem readAs_variant (h : compile source = .ok p) (a : Anchors) (origin : Nat) :
    readAs source (variantText source (!a.documentStart) (a.anchor != some origin)) =
      .ok (p.variant a origin) := by
  unfold compile at h
  split_ifs at h with hescape
  · obtain ⟨live, hlive, h⟩ := bind_ok_iff.1 h
    obtain ⟨noStart, hnoStart, h⟩ := bind_ok_iff.1 h
    obtain ⟨noAnchor, hnoAnchor, h⟩ := bind_ok_iff.1 h
    obtain ⟨neither, hneither, h⟩ := bind_ok_iff.1 h
    cases h
    unfold variant bne
    rcases a.documentStart <;> rcases a.anchor == some origin
    · exact hneither
    · exact hnoStart
    · exact hnoAnchor
    · exact hlive
  · obtain ⟨r, hr, h⟩ := bind_ok_iff.1 h
    cases h
    have htext (killStart killAnchor : Bool) :
        variantText source killStart killAnchor = source := by
      obtain ⟨hA, hG⟩ := Bool.or_eq_false_iff.1 (Bool.not_eq_true _ ▸ hescape)
      cases killStart <;> cases killAnchor <;>
        simp [variantText, replaceEscape_of_not_hasEscape, hA, hG]
    rw [htext, hr]
    unfold variant
    split <;> rfl

/-- A pattern is an anchor and then a group. -/
def Anchored (letter : Char) (source anchored : String) : Prop :=
  anchored.toList = '\\' :: letter :: '(' :: '?' :: ':' :: (source.toList ++ [')'])

/-- The dead anchor that leads a pattern stands before the group in the variant's text, and in the
group stands the text of the same variant of what is in it. -/
theorem Anchored.variantText {letter : Char} {anchored : String} (h : Anchored letter source anchored)
    {killStart killAnchor : Bool}
    (hkill : letter = 'A' ∧ killStart = true ∨ letter = 'G' ∧ killAnchor = true) :
    (variantText anchored killStart killAnchor).toList =
      deadAnchor :: '(' :: '?' :: ':' :: ((variantText source killStart killAnchor).toList ++ [')']) := by
  unfold Pattern.variantText
  rw [h]
  rcases hkill with ⟨rfl, rfl⟩ | ⟨rfl, rfl⟩
  · cases killAnchor <;>
      simp [replaceEscape, replaceEscape_cons, replaceEscape_append, deadAnchor]
  · cases killStart <;>
      simp [replaceEscape, replaceEscape_cons, replaceEscape_append, deadAnchor]

/-- In a group behind an anchor that may not match, nothing is found but from the character on that
stands for the anchor. -/
theorem search_anchored (hq : compile source = .ok q) {letter : Char} {anchored : String}
    (hanchored : Anchored letter source anchored) (h : compile anchored = .ok p) {a : Anchors}
    {origin : Nat}
    (hdead : letter = 'A' ∧ a.documentStart = false ∨ letter = 'G' ∧ a.anchor ≠ some origin)
    {text : Array Char} {m : Regex.Match} (hm : p.search text origin a = some m) :
    ∃ i, origin ≤ i ∧ text[i]? = some deadAnchor := by
  have hkill : letter = 'A' ∧ (!a.documentStart) = true ∨
      letter = 'G' ∧ (a.anchor != some origin) = true := by
    simpa using hdead
  have hinner := readPattern_of_readAs (readAs_variant hq a origin)
  have hroot := readPattern_of_readAs (readAs_variant h a origin)
  rw [hanchored.variantText hkill] at hroot
  obtain ⟨n, hn⟩ := Regex.readPattern_enclosed (by decide) hinner hroot
  have hseq : p.variant a origin = ⟨.seq (.char deadAnchor false) n, (p.variant a origin).groups⟩ := by
    rw [← hn]
  rw [search, hseq] at hm
  exact Regex.search_char hm

theorem search_of_searchBytes {u : String} {origin : Nat} {documentStart : Bool} {anchor : Option Nat}
    {exact : Bool} {groups : List (Option Regex.Span)}
    (h : p.searchBytes u origin documentStart anchor exact = some groups) :
    ∃ i m, position? u.toList origin = some i ∧
      p.search u.toList.toArray i
        ⟨documentStart, if anchor = some origin then some i else none⟩ = some m := by
  obtain ⟨i, hi, h⟩ := Option.bind_eq_some_iff.1 h
  cases exact
  · obtain ⟨m, hm, -⟩ := Option.bind_eq_some_iff.1 h
    exact ⟨i, m, hi, hm⟩
  · obtain ⟨m, hm, -⟩ := Option.bind_eq_some_iff.1 h
    exact ⟨i, m, hi, (search_of_matchAt hm).1⟩

/-- An anchor that may not match is dead: behind it, a pattern that can be read on its own is found
in no text that is free of U+FFFF from the origin on. -/
theorem searchBytes_anchored (hq : compile source = .ok q) {documentStart : Bool}
    {anchor : Option Nat} {origin : Nat}
    (h : compile ("\\A(?:" ++ source ++ ")") = .ok p ∧ documentStart = false ∨
      compile ("\\G(?:" ++ source ++ ")") = .ok p ∧ anchor ≠ some origin)
    {u : String} (hu : ∀ b, origin ≤ b → ¬ OccursAt [deadAnchor] u.toList b) (exact : Bool) :
    p.searchBytes u origin documentStart anchor exact = none := by
  by_contra hsome
  obtain ⟨groups, hgroups⟩ := Option.ne_none_iff_exists'.1 hsome
  obtain ⟨i, m, hi, hm⟩ := search_of_searchBytes hgroups
  obtain ⟨j, hij, hj⟩ : ∃ j, i ≤ j ∧ u.toList.toArray[j]? = some deadAnchor := by
    rcases h with ⟨hp, hstart⟩ | ⟨hp, hanchor⟩
    · have hanchored : Anchored 'A' source ("\\A(?:" ++ source ++ ")") := by simp [Anchored]
      exact search_anchored hq hanchored hp (.inl ⟨rfl, hstart⟩) hm
    · have hanchored : Anchored 'G' source ("\\G(?:" ++ source ++ ")") := by simp [Anchored]
      refine search_anchored hq hanchored hp (.inr ⟨rfl, ?_⟩) hm
      rw [if_neg hanchor]
      simp
  -- The character that stands for the anchor lies at the origin or behind it in bytes too.
  have hj : u.toList[j]? = some deadAnchor := by simpa using hj
  have hstands : StandsAt [deadAnchor] u.toList j := by
    obtain ⟨hlt, -⟩ := List.getElem?_eq_some_iff.1 hj
    exact ⟨hlt.le, Regex.cons_isPrefix_drop_iff.2 ⟨hj, List.nil_prefix⟩⟩
  exact hu (byteOffset u.toList j)
    ((le_byteOffset_of_position hi).trans (byteOffset_mono u.toList hij))
    (occursAt_iff.2 ⟨j, hstands, rfl⟩)

/-- A letter behind either anchor is not found where the anchor may not match. -/
theorem letter_not_found :
    ∃ q pA pG, compile "x" = .ok q ∧ compile "\\A(?:x)" = .ok pA ∧ compile "\\G(?:x)" = .ok pG ∧
      pA.searchBytes "xax" 0 false none false = none ∧
      pG.searchBytes "xax" 0 true (some 1) true = none := by
  obtain ⟨q, hq, -⟩ := exists_ok_of_any (x := compile "x") (p := fun _ => true) (by decide)
  obtain ⟨pA, hA, -⟩ :=
    exists_ok_of_any (x := compile "\\A(?:x)") (p := fun _ => true) (by decide)
  obtain ⟨pG, hG, -⟩ :=
    exists_ok_of_any (x := compile "\\G(?:x)") (p := fun _ => true) (by decide)
  have hfree : ∀ b, 0 ≤ b → ¬ OccursAt [deadAnchor] "xax".toList b := by
    rintro b - ⟨before, after, h, -⟩
    have hmem : deadAnchor ∈ "xax".toList := h ▸ by simp
    exact absurd hmem (by decide)
  exact ⟨q, pA, pG, hq, hA, hG, searchBytes_anchored hq (.inl ⟨hA, rfl⟩) hfree false,
    searchBytes_anchored hq (.inr ⟨hG, by decide⟩) hfree true⟩

/-- U+FFFF may occur in a text, and there an anchor matches that may not. -/
theorem deadAnchor_found :
    ∃ q pA pG, compile "x" = .ok q ∧ compile "\\A(?:x)" = .ok pA ∧ compile "\\G(?:x)" = .ok pG ∧
      pA.searchBytes "\uffffx" 0 false none false = some [some ⟨0, 4⟩] ∧
      pG.searchBytes "\uffffx" 0 true (some 4) false = some [some ⟨0, 4⟩] := by
  obtain ⟨q, hq, -⟩ := exists_ok_of_any (x := compile "x") (p := fun _ => true) (by decide)
  obtain ⟨pA, hA, hfoundA⟩ := exists_ok_of_any (x := compile "\\A(?:x)")
    (p := fun p => p.searchBytes "\uffffx" 0 false none false == some [some ⟨0, 4⟩])
    (by decide)
  obtain ⟨pG, hG, hfoundG⟩ := exists_ok_of_any (x := compile "\\G(?:x)")
    (p := fun p => p.searchBytes "\uffffx" 0 true (some 4) false == some [some ⟨0, 4⟩])
    (by decide)
  exact ⟨q, pA, pG, hq, hA, hG, beq_iff_eq.1 hfoundA, beq_iff_eq.1 hfoundG⟩

end Pattern

end Scopelight
