import Mathlib.Data.List.TakeWhile
import Mathlib.Tactic.Common
import Scopelight.Pattern.EndTemplate
import Scopelight.Proofs.Outcome

/-!
# References of end patterns

Digits with a backslash right before them refer to a group of the begin match, whatever stands
before the backslash (`Parted`). That is how a text reads in escape units (`InUnits`) just if no digit
comes right after an escaped backslash, and then all else stays as it was written. The text of a
group stands in place of its reference, with a backslash before whatever means something in a pattern
(`Filled`, `instantiate_parts`). A digit after an escaped backslash is taken for a reference, too
(`escaped_backslash_refers`).
-/

namespace Scopelight

open Text

/-- A text in escape units: a backslash and the character after it are one. -/
def escapeUnits : List Char → List (List Char)
  | '\\' :: c :: cs => ['\\', c] :: escapeUnits cs
  | c :: cs => [c] :: escapeUnits cs
  | [] => []

/-- No digit comes right after an escaped backslash. -/
def Unambiguous (cs : List Char) : Prop :=
  ∀ d, isDecimalDigit d = true → ¬ [['\\', '\\'], [d]] <:+: escapeUnits cs

/-- The text begins with no digit. -/
def NoDigitFirst (cs : List Char) : Prop := ∀ c ∈ cs.head?, isDecimalDigit c = false

/-- The parts of a text in which any backslash right before digits refers back. -/
inductive Parted : List Char → List EndPart → Prop where
  | nil : Parted [] []
  | char {c cs ps} : (c = '\\' → NoDigitFirst cs) → Parted cs ps → Parted (c :: cs) (.char c :: ps)
  | reference {ds cs ps} : ds ≠ [] → (∀ d ∈ ds, isDecimalDigit d = true) → NoDigitFirst cs →
      Parted cs ps → Parted ('\\' :: (ds ++ cs)) (.reference ds :: ps)

/-- The parts of a text in which a backslash that begins an escape unit refers back, if digits
come after it. -/
inductive InUnits : List Char → List EndPart → Prop where
  | nil : InUnits [] []
  | char {c cs ps} : c ≠ '\\' → InUnits cs ps → InUnits (c :: cs) (.char c :: ps)
  | last : InUnits ['\\'] [.char '\\']
  | escape {c cs ps} : isDecimalDigit c = false → InUnits cs ps →
      InUnits ('\\' :: c :: cs) (.char '\\' :: .char c :: ps)
  | reference {ds cs ps} : ds ≠ [] → (∀ d ∈ ds, isDecimalDigit d = true) → NoDigitFirst cs →
      InUnits cs ps → InUnits ('\\' :: (ds ++ cs)) (.reference ds :: ps)

/-- Plain digits that spell a number of 64 bits. -/
structure Spells (ds : List Char) (n : Nat) : Prop where
  ne_nil : ds ≠ []
  plain : ∀ d ∈ ds, '0' ≤ d ∧ d ≤ '9'
  value : Nat.ofDigitChars 10 ds 0 = n
  fits : n < UInt64.size

/-- What means something in a pattern, blanks aside. -/
def metacharacters : List Char :=
  ['-', '\\', '\x7b', '\x7d', '*', '+', '?', '|', '^', '$', '.', ',', '[', ']', '(', ')', '#']

/-- A text, and the same text with a backslash before each metacharacter and each blank. -/
inductive Quoted : List Char → List Char → Prop where
  | nil : Quoted [] []
  | plain {c cs out} : c ∉ metacharacters → isBlank c = false → Quoted cs out →
      Quoted (c :: cs) (c :: out)
  | slashed {c cs out} : c ∈ metacharacters ∨ isBlank c = true → Quoted cs out →
      Quoted (c :: cs) ('\\' :: c :: out)

/-- What parts of a template come to: a reference to a group that took part gives way to the quoted
text of the group, any other to nothing. -/
inductive Filled (line : Array Char) (m : Regex.Match) : List EndPart → List Char → Prop where
  | nil : Filled line m [] []
  | char {c ps out} : Filled line m ps out → Filled line m (.char c :: ps) (c :: out)
  | text {ds n s quoted ps out} : Spells ds n → m.groups[n]? = some (some s) →
      Quoted (line.extract s.start s.stop).toList quoted → Filled line m ps out →
      Filled line m (.reference ds :: ps) (quoted ++ out)
  | absent {ds ps out} : (∀ n s, Spells ds n → m.groups[n]? ≠ some (some s)) →
      Filled line m ps out → Filled line m (.reference ds :: ps) out

/-! ## How a template is read -/

theorem endParts_drop (n : Nat) (cs : List Char) : endParts n cs = endParts 0 (cs.drop n) := by
  induction cs generalizing n with
  | nil => cases n <;> rfl
  | cons c cs ih =>
    cases n with
    | zero => rfl
    | succ n => exact ih n

theorem noDigitFirst_dropWhile (cs : List Char) : NoDigitFirst (cs.dropWhile isDecimalDigit) := by
  intro c hc
  have hhead := List.head?_dropWhile_not isDecimalDigit cs
  rwa [Option.mem_def.1 hc] at hhead

theorem parted_endParts : ∀ cs : List Char, Parted cs (endParts 0 cs)
  | [] => .nil
  | c :: cs => by
    have hsplit := List.takeWhile_append_dropWhile (p := isDecimalDigit) (l := cs)
    have hdrop : cs.drop (cs.takeWhile isDecimalDigit).length = cs.dropWhile isDecimalDigit :=
      (congrArg (List.drop _) hsplit).symm.trans List.drop_left
    have hlength := (List.dropWhile_suffix isDecimalDigit (l := cs)).length_le
    rw [endParts]
    split_ifs with h
    · obtain ⟨rfl, hds⟩ := h
      rw [endParts_drop, hdrop]
      have hparts := parted_endParts (cs.dropWhile isDecimalDigit)
      have := Parted.reference hds (fun _ => List.mem_takeWhile_imp) (noDigitFirst_dropWhile cs)
        hparts
      rwa [hsplit] at this
    · refine .char (fun hc d hd => ?_) (parted_endParts cs)
      -- A digit here would have been taken.
      by_contra hdigit
      refine h ⟨hc, fun hnil => ?_⟩
      obtain ⟨ds, rfl⟩ : ∃ ds, cs = d :: ds := List.head?_eq_some_iff.1 hd
      simp [hdigit] at hnil
termination_by cs => cs.length

section Parted

variable {cs : List Char} {ps : List EndPart}

theorem Parted.of_char {c d : Char} (h : Parted (c :: cs) (.char d :: ps)) :
    (c = '\\' → NoDigitFirst cs) ∧ Parted cs ps := by
  generalize hcs : c :: cs = us at h
  cases h with
  | char hslash hp =>
    cases hcs
    exact ⟨hslash, hp⟩

theorem Parted.of_reference {ds : List Char}
    (h : Parted ('\\' :: (ds ++ cs)) (.reference ds :: ps)) : Parted cs ps := by
  generalize hcs : '\\' :: (ds ++ cs) = us at h
  cases h with
  | reference _ _ _ hp =>
    rw [List.cons.injEq, List.append_cancel_left_eq] at hcs
    exact hcs.2 ▸ hp

theorem Parted.fillReferences_eq (h : Parted cs ps) (hnone : ∀ ds, .reference ds ∉ ps)
    (text : List Char → List Char) : fillReferences text ps = cs := by
  induction h with
  | nil => rfl
  | char _ _ ih =>
    have := ih fun ds hds => hnone ds (List.mem_cons_of_mem _ hds)
    simpa [fillReferences] using this
  | @reference ds => exact absurd List.mem_cons_self (hnone ds)

/-! ## Escape units -/

theorem escapeUnits_of_ne {c : Char} (hc : c ≠ '\\') (cs : List Char) :
    escapeUnits (c :: cs) = [c] :: escapeUnits cs := by
  rw [escapeUnits]
  intro _ _ hslash
  exact absurd hslash hc

theorem ne_of_isDecimalDigit {d : Char} (h : isDecimalDigit d = true) : d ≠ '\\' := by
  rintro rfl
  exact absurd h (by decide)

theorem unambiguous_nil : Unambiguous [] :=
  fun _ _ h => absurd h.length_le (by simp [escapeUnits])

theorem unambiguous_slash : Unambiguous ['\\'] :=
  fun _ _ h => absurd h.length_le (by simp [escapeUnits])

theorem unambiguous_cons_iff {c : Char} (hc : c ≠ '\\') :
    Unambiguous (c :: cs) ↔ Unambiguous cs := by
  simp [Unambiguous, escapeUnits_of_ne hc, List.infix_cons_iff]

theorem prefix_escapeUnits_iff {d : Char} (hd : d ≠ '\\') :
    [[d]] <+: escapeUnits cs ↔ d ∈ cs.head? := by
  cases cs with
  | nil => simp [escapeUnits]
  | cons c cs =>
    by_cases hc : c = '\\'
    · subst hc
      cases cs <;> simp [escapeUnits, hd, eq_comm]
    · simp [escapeUnits_of_ne hc, eq_comm]

theorem unambiguous_escape_iff {c : Char} :
    Unambiguous ('\\' :: c :: cs) ↔ (c = '\\' → NoDigitFirst cs) ∧ Unambiguous cs := by
  have hpair (d : Char) (hd : d ≠ '\\') :
      [['\\', '\\'], [d]] <+: ['\\', c] :: escapeUnits cs ↔ c = '\\' ∧ d ∈ cs.head? := by
    rw [List.cons_prefix_cons, prefix_escapeUnits_iff hd]
    simp [eq_comm]
  constructor
  · refine fun h => ⟨fun hc d hd => ?_, fun d hd hin => h d hd (List.infix_cons hin)⟩
    by_contra hdigit
    have hdigit : isDecimalDigit d = true := by simpa using hdigit
    have hpre := (hpair d (ne_of_isDecimalDigit hdigit)).2 ⟨hc, hd⟩
    exact h d hdigit (List.infix_cons_iff.2 (.inl hpre))
  · rintro ⟨hslash, h⟩ d hd hin
    rcases List.infix_cons_iff.1 hin with hpre | hin
    · obtain ⟨hc, hfirst⟩ := (hpair d (ne_of_isDecimalDigit hd)).1 hpre
      simp [hslash hc d hfirst] at hd
    · exact h d hd hin

theorem unambiguous_reference_iff {ds : List Char} (hne : ds ≠ [])
    (hds : ∀ d ∈ ds, isDecimalDigit d = true) :
    Unambiguous ('\\' :: (ds ++ cs)) ↔ Unambiguous cs := by
  obtain ⟨d, ds, rfl⟩ := List.exists_cons_of_ne_nil hne
  have hd := ne_of_isDecimalDigit (hds d (by simp))
  have htail : Unambiguous (ds ++ cs) ↔ Unambiguous cs := by
    clear hne
    induction ds with
    | nil => rfl
    | cons e ds ih =>
      rw [List.cons_append, unambiguous_cons_iff (ne_of_isDecimalDigit (hds e (by simp)))]
      exact ih fun f hf => hds f (by simp at hf ⊢; tauto)
  rw [List.cons_append, unambiguous_escape_iff, htail]
  simp [hd]

theorem InUnits.unambiguous (hu : InUnits cs ps) (hp : Parted cs ps) : Unambiguous cs := by
  induction hu with
  | nil => exact unambiguous_nil
  | last => exact unambiguous_slash
  | char hc _ ih => exact (unambiguous_cons_iff hc).2 (ih hp.of_char.2)
  | escape _ _ ih =>
    obtain ⟨hnext, hp⟩ := hp.of_char.2.of_char
    exact unambiguous_escape_iff.2 ⟨hnext, ih hp⟩
  | reference hne hds _ _ ih => exact (unambiguous_reference_iff hne hds).2 (ih hp.of_reference)

/-- If no digit comes after an escaped backslash, a text has the same parts in escape units. -/
theorem Parted.inUnits : ∀ {cs : List Char} {ps : List EndPart}, Parted cs ps → Unambiguous cs →
    InUnits cs ps
  | _, _, .nil, _ => .nil
  | _, _, .reference hne hds hfirst hp, h =>
    .reference hne hds hfirst (hp.inUnits ((unambiguous_reference_iff hne hds).1 h))
  | _, _, @Parted.char c cs ps hnext hp, h => by
    by_cases hc : c = '\\'
    · subst hc
      match cs, ps, hp with
      | _, _, .nil => exact .last
      | _, _, .char _ hp =>
        exact .escape (hnext rfl _ rfl) (hp.inUnits (unambiguous_escape_iff.1 h).2)
      | _, _, .reference hne hds _ _ =>
        -- The second backslash is escaped, so the digits behind it belong to no reference.
        obtain ⟨d, ds, rfl⟩ := List.exists_cons_of_ne_nil hne
        have hdigit := (unambiguous_escape_iff.1 h).1 rfl d rfl
        simp [hds d (by simp)] at hdigit
    · exact .char hc (hp.inUnits ((unambiguous_cons_iff hc).1 h))

/-- Read in escape units, a text refers back just if some unit is a backslash with a digit. -/
theorem InUnits.exists_reference_iff (h : InUnits cs ps) :
    (∃ ds, .reference ds ∈ ps) ↔ ∃ d, isDecimalDigit d = true ∧ ['\\', d] ∈ escapeUnits cs := by
  induction h with
  | nil => simp [escapeUnits]
  | last => simp [escapeUnits]
  | char hc _ ih => simpa [escapeUnits_of_ne hc] using ih
  | @escape c _ _ hc _ ih =>
    have hne (d : Char) (hd : isDecimalDigit d = true) : d ≠ c := by
      rintro rfl
      simp [hc] at hd
    simp only [List.mem_cons, reduceCtorEq, false_or, ih, escapeUnits, List.cons.injEq, true_and,
      and_true]
    exact exists_congr fun d => and_congr_right fun hd => (or_iff_right (hne d hd)).symm
  | @reference ds _ _ hne hds _ _ _ =>
    obtain ⟨d, ds, rfl⟩ := List.exists_cons_of_ne_nil hne
    simp only [List.mem_cons, List.cons_append, escapeUnits]
    exact ⟨fun _ => ⟨d, hds d (by simp), .inl rfl⟩, fun _ => ⟨_, .inl rfl⟩⟩

end Parted

/-! ## What stands in place of references -/

section Filled

theorem quoted_escapeLiteral (cs : List Char) : Quoted cs (escapeLiteral cs) := by
  induction cs with
  | nil => exact .nil
  | cons c cs ih =>
    have hmeta : needsEscape c = true ↔ c ∈ metacharacters ∨ isBlank c = true := by
      simp [needsEscape, metacharacters]
    rw [escapeLiteral, List.flatMap_cons, ← escapeLiteral]
    split_ifs with hc
    · exact .slashed (hmeta.1 hc) ih
    · rw [hmeta, not_or, Bool.not_eq_true] at hc
      exact .plain hc.1 hc.2 ih

theorem ofDigitChars_eq_digitsValue {ds : List Char} (h : ∀ d ∈ ds, isAsciiDigit d = true) :
    Nat.ofDigitChars 10 ds 0 = digitsValue 10 ds := by
  unfold Nat.ofDigitChars digitsValue
  generalize 0 = n
  induction ds generalizing n with
  | nil => rfl
  | cons d ds ih =>
    have hd : hexValue d = d.toNat - '0'.toNat := if_pos (h d List.mem_cons_self)
    rw [List.foldl_cons, List.foldl_cons, hd, Nat.mul_comm n]
    exact ih (fun e he => h e (List.mem_cons_of_mem d he)) _

theorem spells_iff {ds : List Char} {n : Nat} : Spells ds n ↔ groupNumber? ds = some n := by
  have hplain : (∀ d ∈ ds, '0' ≤ d ∧ d ≤ '9') ↔ ∀ d ∈ ds, isAsciiDigit d = true := by
    simp [isAsciiDigit]
  constructor
  · intro h
    have hdigits := hplain.1 h.plain
    have hvalue := (ofDigitChars_eq_digitsValue hdigits).symm.trans h.value
    have hfits : n < wordLimit := h.fits
    simpa [groupNumber?, h.ne_nil, hvalue, hfits] using hdigits
  · intro h
    unfold groupNumber? at h
    dsimp only at h
    split_ifs at h with hcond hfits
    obtain ⟨hne, hdigits⟩ : ds ≠ [] ∧ ∀ d ∈ ds, isAsciiDigit d = true := by
      simpa using hcond
    obtain rfl := Option.some.inj h
    exact ⟨hne, hplain.2 hdigits, ofDigitChars_eq_digitsValue hdigits, hfits⟩

theorem Pattern.source_of_compile {source : String} {p : Pattern} (h : Pattern.compile source = .ok p) :
    p.source = source := by
  unfold Pattern.compile at h
  split_ifs at h
  · obtain ⟨_, -, h⟩ := bind_ok_iff.1 h
    obtain ⟨_, -, h⟩ := bind_ok_iff.1 h
    obtain ⟨_, -, h⟩ := bind_ok_iff.1 h
    obtain ⟨_, -, h⟩ := bind_ok_iff.1 h
    cases h
    rfl
  · obtain ⟨_, -, h⟩ := bind_ok_iff.1 h
    cases h
    rfl

theorem referenceText_of_group {line : Array Char} {m : Regex.Match} {ds : List Char} {n : Nat}
    {s : Regex.Span} (hn : Spells ds n) (hs : m.groups[n]? = some (some s)) :
    EndTemplate.referenceText line m ds = escapeLiteral (line.extract s.start s.stop).toList := by
  have htext : m.text? line n = some (line.extract s.start s.stop).toList := by
    rw [Regex.Match.text?, Regex.Match.group?, hs]
    rfl
  rw [EndTemplate.referenceText, spells_iff.1 hn, Option.bind_some, htext]

theorem referenceText_of_absent {m : Regex.Match} {ds : List Char}
    (h : ∀ n s, Spells ds n → m.groups[n]? ≠ some (some s)) (line : Array Char) :
    EndTemplate.referenceText line m ds = [] := by
  unfold EndTemplate.referenceText
  rcases hn : groupNumber? ds with _ | n
  · rfl
  have hgroup : m.group? n = none := by
    rw [Option.eq_none_iff_forall_ne_some]
    exact fun s hs => h n s (spells_iff.2 hn) (Option.join_eq_some_iff.1 hs)
  rw [Option.bind_some, Regex.Match.text?, hgroup]
  rfl

theorem filled_fillReferences (line : Array Char) (m : Regex.Match) (ps : List EndPart) :
    Filled line m ps (fillReferences (EndTemplate.referenceText line m) ps) := by
  induction ps with
  | nil => exact .nil
  | cons p ps ih =>
    rw [fillReferences, List.flatMap_cons, ← fillReferences]
    cases p with
    | char c => exact .char ih
    | reference ds =>
      dsimp only
      by_cases h : ∃ n s, Spells ds n ∧ m.groups[n]? = some (some s)
      · obtain ⟨n, s, hn, hs⟩ := h
        rw [referenceText_of_group hn hs]
        exact .text hn hs (quoted_escapeLiteral _) ih
      · have habsent : ∀ n s, Spells ds n → m.groups[n]? ≠ some (some s) :=
          fun n s hn hs => h ⟨n, s, hn, hs⟩
        rw [referenceText_of_absent habsent]
        exact .absent habsent ih

end Filled

/-! ## Templates -/

namespace EndTemplate

variable {source : String} {t : EndTemplate}

theorem compile_cases (h : compile source = .ok t) :
    ((∃ ds, .reference ds ∈ endParts 0 source.toList) ∧ t = .perRegion source) ∨
      (∀ ds, .reference ds ∉ endParts 0 source.toList) ∧
        ∃ p, Pattern.compile source = .ok p ∧ t = .fixed p := by
  have hany : (endParts 0 source.toList).any (·.isReference) = true ↔
      ∃ ds, .reference ds ∈ endParts 0 source.toList := by
    rw [List.any_eq_true]
    constructor
    · rintro ⟨part, hmem, hpart⟩
      cases part with
      | char c => cases hpart
      | reference ds => exact ⟨ds, hmem⟩
    · rintro ⟨ds, hmem⟩
      exact ⟨_, hmem, rfl⟩
  unfold compile at h
  dsimp only at h
  split_ifs at h with hparts
  · split at h
    · cases h
      exact .inl ⟨hany.1 hparts, rfl⟩
    · cases h
  · obtain ⟨p, hp, rfl⟩ := map_ok_iff.1 h
    exact .inr ⟨not_exists.1 fun hex => hparts (hany.2 hex), p, hp, rfl⟩

/-- A template refers back where digits have a backslash right before them. The quoted text of the
group that they name stands in their place, and the rest stays as it is. These are the references
that its escape units have just if no digit comes after an escaped backslash. -/
theorem instantiate_parts (ht : compile source = .ok t) :
    ∃ parts, Parted source.toList parts ∧
      (t.hasBackreferences = true ↔ ∃ ds, .reference ds ∈ parts) ∧
      (∀ line m, ∃ out, Filled line m parts out ∧
        t.instantiate line m = Pattern.compile (String.ofList out)) ∧
      (InUnits source.toList parts ↔ Unambiguous source.toList) ∧
      (Unambiguous source.toList → (t.hasBackreferences = true ↔
        ∃ d, isDecimalDigit d = true ∧ ['\\', d] ∈ escapeUnits source.toList)) := by
  have hparted := parted_endParts source.toList
  have hback : t.hasBackreferences = true ↔ ∃ ds, .reference ds ∈ endParts 0 source.toList := by
    rcases compile_cases ht with ⟨hsome, rfl⟩ | ⟨hnone, p, -, rfl⟩
    · exact iff_of_true rfl hsome
    · exact iff_of_false Bool.false_ne_true (not_exists.2 hnone)
  have hunits : InUnits source.toList (endParts 0 source.toList) ↔ Unambiguous source.toList :=
    ⟨fun h => h.unambiguous hparted, hparted.inUnits⟩
  refine ⟨_, hparted, hback, fun line m => ?_, hunits, fun h => ?_⟩
  · refine ⟨_, filled_fillReferences line m _, ?_⟩
    rcases compile_cases ht with ⟨-, rfl⟩ | ⟨hnone, p, hp, rfl⟩
    · rfl
    · rw [hparted.fillReferences_eq hnone, String.ofList_toList]
      exact hp.symm
  · exact hback.trans (hunits.2 h).exists_reference_iff

/-- A reference and an escaped backslash behind it, with a text that would mean something. -/
theorem slash_after_reference_stays :
    ∃ t p parts, compile "\\1\\\\" = .ok t ∧ t.hasBackreferences = true ∧
      InUnits "\\1\\\\".toList parts ∧
      Filled "a*".toList.toArray ⟨[some ⟨0, 2⟩, some ⟨0, 2⟩]⟩ parts "a\\*\\\\".toList ∧
      t.instantiate "a*".toList.toArray ⟨[some ⟨0, 2⟩, some ⟨0, 2⟩]⟩ = .ok p ∧
      p.source = "a\\*\\\\" := by
  have ht : compile "\\1\\\\" = .ok (.perRegion "\\1\\\\") := by decide +kernel
  have hunambiguous : Unambiguous "\\1\\\\".toList :=
    unambiguous_escape_iff.2 ⟨fun h => absurd h (by decide),
      unambiguous_escape_iff.2 ⟨fun _ _ hnone => (by cases hnone), unambiguous_nil⟩⟩
  obtain ⟨parts, -, -, hinstantiate, hunits, hback⟩ := instantiate_parts ht
  have hsome := (hback hunambiguous).2 ⟨'1', by decide, by decide⟩
  obtain ⟨out, hfilled, hcompile⟩ :=
    hinstantiate "a*".toList.toArray ⟨[some ⟨0, 2⟩, some ⟨0, 2⟩]⟩
  have hread : (instantiate (.perRegion "\\1\\\\") "a*".toList.toArray
      ⟨[some ⟨0, 2⟩, some ⟨0, 2⟩]⟩).toOption.any (·.source == "a\\*\\\\") = true := by
    decide +kernel
  obtain ⟨p, hp, hsource⟩ := exists_ok_of_any hread
  have hsource : p.source = "a\\*\\\\" := by simpa using hsource
  have hout : out = "a\\*\\\\".toList := by
    rw [← hsource, Pattern.source_of_compile (hcompile.symm.trans hp), String.toList_ofList]
  exact ⟨_, p, parts, ht, hsome, hunits.2 hunambiguous, hout ▸ hfilled, hp, hsource⟩

/-- The digit after an escaped backslash is taken for a reference. -/
theorem escaped_backslash_refers :
    InUnits "\\\\1".toList [.char '\\', .char '\\', .char '1'] ∧
      ∃ t, compile "\\\\1" = .ok t ∧ t.hasBackreferences = true ∧
        (t.instantiate "a".toList.toArray ⟨[some ⟨0, 1⟩, some ⟨0, 1⟩]⟩).map (·.source) =
          .ok "\\a" := by
  refine ⟨.escape (by decide) (.char (by decide) .nil), ?_⟩
  exact ⟨.perRegion "\\\\1", by decide +kernel, rfl, by decide +kernel⟩

end EndTemplate

end Scopelight
