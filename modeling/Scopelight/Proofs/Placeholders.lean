import Scopelight.Proofs.References
import Scopelight.Proofs.Selectors
import Scopelight.Proofs.Words
import Scopelight.Scope.Name

/-!
# Placeholders of scope names

A template without placeholders comes to itself, so it need not be filled in (`expand_eq`). What
stands before a dollar sign is read for itself (`nameParts_append`), and so is what stands behind a
placeholder: it is filled in wherever it stands (`filled_plain`, `filled_mark`). Digits between
braces are no placeholder unless a change of case follows them (`filled_braced`). They stay as they
are, and the placeholder without braces comes to the same scopes only if the text of its group
spells the braces (`expand_placeholder`).
-/

namespace Scopelight

open Text

/-- What a template comes to before it is cut at blanks. -/
def filled (line : Array Char) (m : Regex.Match) (template : List Char) : List Char :=
  (nameParts 0 template).flatMap (·.fill line m)

/-- The text of a group without leading dots. -/
def groupText? (line : Array Char) (m : Regex.Match) (digits : List Char) : Option (List Char) :=
  ((groupNumber? digits).bind (m.text? line)).map (·.dropWhile (· == '.'))

/-- Digits between braces behind a dollar sign. -/
def braced (digits : List Char) : List Char := '$' :: '\x7b' :: (digits ++ ['\x7d'])

/-- The scopes that a text spells, by blanks between them. -/
def scopesOf (cs : List Char) : List String := (words cs).map String.ofList

section Parts

variable {line : Array Char} {m : Regex.Match} {cs ds digits mark : List Char} {p : Placeholder}
  {letterCase : LetterCase}

theorem nameParts_drop (n : Nat) (cs : List Char) : nameParts n cs = nameParts 0 (cs.drop n) := by
  induction cs generalizing n with
  | nil => cases n <;> rfl
  | cons c cs ih =>
    cases n with
    | zero => rfl
    | succ n => exact ih n

theorem nameParts_of_ne {c : Char} (hc : c ≠ '$') (cs : List Char) :
    nameParts 0 (c :: cs) = .char c :: nameParts 0 cs := by
  rw [nameParts, if_neg hc]

theorem nameParts_of_none (h : placeholder? cs = none) :
    nameParts 0 ('$' :: cs) = .char '$' :: nameParts 0 cs := by
  rw [nameParts, if_pos rfl, h]

theorem nameParts_of_some (h : placeholder? (p.written ++ cs) = some p) :
    nameParts 0 ('$' :: (p.written ++ cs)) = .placeholder p :: nameParts 0 cs := by
  rw [nameParts, if_pos rfl, h]
  simp only
  rw [nameParts_drop, List.drop_left]

theorem nameParts_of_no_dollar (h : ∀ c ∈ cs, c ≠ '$') (ds : List Char) :
    nameParts 0 (cs ++ ds) = cs.map .char ++ nameParts 0 ds := by
  induction cs with
  | nil => rfl
  | cons c cs ih =>
    rw [List.cons_append, nameParts_of_ne (h c (by simp)), ih fun d hd => h d (by simp [hd])]
    rfl

/-! ## Placeholders where they stand -/

theorem takeWhile_digits (hdigits : ∀ d ∈ digits, isDecimalDigit d = true) (h : NoDigitFirst cs) :
    (digits ++ cs).takeWhile isDecimalDigit = digits ∧
      (digits ++ cs).dropWhile isDecimalDigit = cs := by
  rw [List.takeWhile_append_of_pos hdigits, List.dropWhile_append_of_pos hdigits]
  cases cs with
  | nil => simp
  | cons c cs =>
    have hc := h c rfl
    simp [hc]

theorem exists_brace_cons (h : ¬∀ c ∈ cs.head?, c ≠ '\x7b') : ∃ rest, cs = '\x7b' :: rest := by
  cases cs with
  | nil => simp at h
  | cons c cs => exact ⟨cs, by simpa using h⟩

theorem placeholder_of_ne (h : ∀ c ∈ cs.head?, c ≠ '\x7b') : placeholder? cs =
    if (cs.takeWhile isDecimalDigit).isEmpty then none
    else some ⟨cs.takeWhile isDecimalDigit, groupNumber? (cs.takeWhile isDecimalDigit),
      .asWritten⟩ := by
  unfold placeholder?
  split
  · exact absurd rfl (h _ rfl)
  · rfl

theorem placeholder_plain (hne : digits ≠ []) (hdigits : ∀ d ∈ digits, isDecimalDigit d = true)
    (h : NoDigitFirst cs) :
    placeholder? (digits ++ cs) = some ⟨digits, groupNumber? digits, .asWritten⟩ := by
  obtain ⟨htake, -⟩ := takeWhile_digits hdigits h
  rw [placeholder_of_ne, htake, if_neg (by simpa using hne)]
  intro c hc
  rintro rfl
  obtain ⟨d, ds, rfl⟩ := List.exists_cons_of_ne_nil hne
  cases Option.some.inj hc
  exact absurd (hdigits _ List.mem_cons_self) (by decide)

theorem placeholder_braced (hne : digits ≠ []) (hdigits : ∀ d ∈ digits, isDecimalDigit d = true)
    (h : NoDigitFirst cs) :
    placeholder? ('\x7b' :: (digits ++ cs)) = bracedPlaceholder digits cs := by
  obtain ⟨htake, hdrop⟩ := takeWhile_digits hdigits h
  unfold placeholder?
  simp [htake, hdrop, hne]

/-- Behind the digits a brace does not close a placeholder. -/
theorem bracedPlaceholder_close (digits cs : List Char) :
    bracedPlaceholder digits ('\x7d' :: cs) = none := by
  simp [bracedPlaceholder, caseMarks, dropLeading]

theorem bracedPlaceholder_mark (hmark : (mark, letterCase) ∈ caseMarks) (digits cs : List Char) :
    bracedPlaceholder digits (mark ++ cs) =
      some ⟨'\x7b' :: digits ++ mark, groupNumber? digits, letterCase⟩ := by
  simp only [caseMarks, List.mem_cons, Prod.mk.injEq, List.not_mem_nil, or_false] at hmark
  rcases hmark with ⟨rfl, rfl⟩ | ⟨rfl, rfl⟩ <;>
    simp [bracedPlaceholder, caseMarks, dropLeading]

/-! ## Parts of a template -/

theorem dropLeading_append {c : Char} {lead : List Char} (hc : c ∉ lead) (cs ds : List Char) :
    dropLeading lead (cs ++ c :: ds) = (dropLeading lead cs).map (· ++ c :: ds) := by
  induction lead generalizing cs with
  | nil => rfl
  | cons a lead ih =>
    rw [List.mem_cons, not_or] at hc
    cases cs with
    | nil => simp [dropLeading, Ne.symm hc.1]
    | cons d cs =>
      rw [List.cons_append, dropLeading, dropLeading]
      split_ifs
      · exact ih hc.2 cs
      · rfl

theorem bracedPlaceholder_append (digits cs ds : List Char) :
    bracedPlaceholder digits (cs ++ '$' :: ds) = bracedPlaceholder digits cs := by
  have hdown : '$' ∉ ":/downcase\x7d".toList := by decide
  have hup : '$' ∉ ":/upcase\x7d".toList := by decide
  simp only [bracedPlaceholder, caseMarks, List.findSome?_cons, List.findSome?_nil,
    dropLeading_append hdown, dropLeading_append hup, Option.map_map, Function.comp_def]

theorem digits_append (cs ds : List Char) :
    (cs ++ '$' :: ds).takeWhile isDecimalDigit = cs.takeWhile isDecimalDigit ∧
      (cs ++ '$' :: ds).dropWhile isDecimalDigit = cs.dropWhile isDecimalDigit ++ '$' :: ds := by
  have hdollar : isDecimalDigit '$' = false := by decide
  induction cs with
  | nil => simp [hdollar]
  | cons c cs ih =>
    by_cases hc : isDecimalDigit c = true
    · simp [hc, ih]
    · simp [hc]

/-- A dollar sign ends what a placeholder could be. -/
theorem placeholder_append (cs ds : List Char) :
    placeholder? (cs ++ '$' :: ds) = placeholder? cs := by
  by_cases hbrace : ∀ c ∈ cs.head?, c ≠ '\x7b'
  · have hbrace' : ∀ c ∈ (cs ++ '$' :: ds).head?, c ≠ '\x7b' := by
      cases cs with
      | nil => simp
      | cons c cs => simpa using hbrace
    rw [placeholder_of_ne hbrace, placeholder_of_ne hbrace', (digits_append cs ds).1]
  · obtain ⟨cs, rfl⟩ := exists_brace_cons hbrace
    rw [List.cons_append, placeholder?, placeholder?, (digits_append cs ds).1,
      (digits_append cs ds).2, bracedPlaceholder_append]

theorem bracedPlaceholder_prefix (h : bracedPlaceholder digits cs = some p) :
    p.written <+: '\x7b' :: (digits ++ cs) := by
  obtain ⟨q, -, hq⟩ := List.exists_of_findSome?_eq_some h
  obtain ⟨rest, hrest, rfl⟩ := Option.map_eq_some_iff.1 hq
  rw [dropLeading_eq_some_iff.1 hrest]
  exact ⟨rest, by simp⟩

theorem written_prefix (h : placeholder? cs = some p) : p.written <+: cs := by
  by_cases hbrace : ∀ c ∈ cs.head?, c ≠ '\x7b'
  · rw [placeholder_of_ne hbrace] at h
    split at h
    · cases h
    · cases h
      exact List.takeWhile_prefix _
  · obtain ⟨cs, rfl⟩ := exists_brace_cons hbrace
    rw [placeholder?] at h
    split at h
    · cases h
    · have := bracedPlaceholder_prefix h
      rwa [List.takeWhile_append_dropWhile] at this

theorem nameParts_append (cs ds : List Char) :
    nameParts 0 (cs ++ '$' :: ds) = nameParts 0 cs ++ nameParts 0 ('$' :: ds) := by
  -- By the length, since a placeholder takes many characters at once.
  induction hlength : cs.length using Nat.strong_induction_on generalizing cs with
  | _ n ih =>
    subst hlength
    cases cs with
    | nil => rfl
    | cons c cs =>
      by_cases hc : c = '$'
      · subst hc
        rcases hp : placeholder? cs with _ | p
        · have hp' := (placeholder_append cs ds).trans hp
          rw [List.cons_append, nameParts_of_none hp', nameParts_of_none hp,
            ih _ (by simp) cs rfl]
          rfl
        · obtain ⟨rest, rfl⟩ := written_prefix hp
          have hp' := (placeholder_append (p.written ++ rest) ds).trans hp
          rw [List.append_assoc] at hp'
          rw [List.cons_append, List.append_assoc, nameParts_of_some hp', nameParts_of_some hp,
            ih _ (by simp only [List.length_cons, List.length_append]; omega) rest rfl]
          rfl
      · rw [List.cons_append, nameParts_of_ne hc, nameParts_of_ne hc, ih _ (by simp) cs rfl]
        rfl

end Parts

section Filled

variable (line : Array Char) (m : Regex.Match) {cs digits mark : List Char} {p : Placeholder}
  {letterCase : LetterCase}

theorem filled_append (cs ds : List Char) :
    filled line m (cs ++ '$' :: ds) = filled line m cs ++ filled line m ('$' :: ds) := by
  unfold filled
  rw [nameParts_append, List.flatMap_append]

theorem filled_of_no_dollar (h : ∀ c ∈ cs, c ≠ '$') (ds : List Char) :
    filled line m (cs ++ ds) = cs ++ filled line m ds := by
  unfold filled
  rw [nameParts_of_no_dollar h, List.flatMap_append, List.flatMap_map]
  congr 1
  exact List.flatMap_singleton' cs

theorem filled_of_some {w : List Char}
    (h : placeholder? (w ++ cs) = some ⟨w, groupNumber? digits, letterCase⟩) :
    filled line m ('$' :: (w ++ cs)) =
      ((groupText? line m digits).map letterCase.apply).getD ('$' :: w) ++
        filled line m cs := by
  unfold filled groupText?
  rw [nameParts_of_some (p := ⟨w, _, _⟩) h, List.flatMap_cons, NamePart.fill]
  rcases (groupNumber? digits).bind (m.text? line) <;> rfl

theorem filled_plain (hne : digits ≠ []) (hdigits : ∀ d ∈ digits, isDecimalDigit d = true)
    (h : NoDigitFirst cs) : filled line m ('$' :: (digits ++ cs)) =
      (groupText? line m digits).getD ('$' :: digits) ++ filled line m cs := by
  rw [filled_of_some line m (placeholder_plain hne hdigits h),
    show LetterCase.asWritten.apply = id from rfl, Option.map_id]
  rfl

theorem filled_mark (hne : digits ≠ []) (hdigits : ∀ d ∈ digits, isDecimalDigit d = true)
    (hmark : (mark, letterCase) ∈ caseMarks) (cs : List Char) :
    filled line m ('$' :: '\x7b' :: (digits ++ mark ++ cs)) =
      ((groupText? line m digits).map letterCase.apply).getD ('$' :: '\x7b' :: (digits ++ mark)) ++
        filled line m cs := by
  have hcolon : NoDigitFirst (mark ++ cs) := by
    simp only [caseMarks, List.mem_cons, Prod.mk.injEq, List.not_mem_nil, or_false] at hmark
    rcases hmark with ⟨rfl, -⟩ | ⟨rfl, -⟩ <;>
      · rintro c hc
        cases hc
        decide
  have hp := placeholder_braced hne hdigits hcolon
  rw [bracedPlaceholder_mark hmark, ← List.append_assoc] at hp
  exact filled_of_some line m (w := '\x7b' :: (digits ++ mark)) hp

theorem filled_braced (hne : digits ≠ []) (hdigits : ∀ d ∈ digits, isDecimalDigit d = true)
    (cs : List Char) : filled line m (braced digits ++ cs) = braced digits ++ filled line m cs := by
  have hbrace : NoDigitFirst ('\x7d' :: cs) := by
    rintro c hc
    cases hc
    decide
  have hnone : placeholder? ('\x7b' :: (digits ++ '\x7d' :: cs)) = none :=
    (placeholder_braced hne hdigits hbrace).trans (bracedPlaceholder_close digits cs)
  have hdollar : ∀ c ∈ '\x7b' :: (digits ++ ['\x7d']), c ≠ '$' := by
    rintro _ hc rfl
    have hdigit : '$' ∈ digits := by simpa using hc
    exact absurd (hdigits _ hdigit) (by decide)
  have hrest := filled_of_no_dollar line m hdollar cs
  unfold filled at hrest ⊢
  unfold braced
  simp only [List.cons_append, List.append_assoc, List.nil_append] at hrest ⊢
  rw [nameParts_of_none hnone, List.flatMap_cons, hrest]
  rfl

theorem filled_of_static (h : ∀ part ∈ nameParts 0 cs, part.isPlaceholder = false) :
    filled line m cs = cs := by
  induction cs with
  | nil => rfl
  | cons c cs ih =>
    have hstep (hparts : nameParts 0 (c :: cs) = .char c :: nameParts 0 cs) :
        filled line m (c :: cs) = c :: cs := by
      rw [hparts] at h
      have hcs : filled line m cs = cs := ih fun part hpart => h part (List.mem_cons_of_mem _ hpart)
      unfold filled at hcs ⊢
      rw [hparts, List.flatMap_cons, hcs]
      rfl
    by_cases hc : c = '$'
    · subst hc
      rcases hp : placeholder? cs with _ | p
      · exact hstep (nameParts_of_none hp)
      · obtain ⟨rest, rfl⟩ := written_prefix hp
        rw [nameParts_of_some hp] at h
        exact absurd (h _ List.mem_cons_self) (by simp [NamePart.isPlaceholder])
    · exact hstep (nameParts_of_ne hc cs)

theorem filter_digits (hdigits : ∀ d ∈ digits, isDecimalDigit d = true) :
    digits.filter (fun c => !isBlank c) = digits := by
  rw [List.filter_eq_self]
  intro d hd
  rw [isBlank_eq_false_of_digit (hdigits d hd)]
  rfl

theorem filter_braced (hdigits : ∀ d ∈ digits, isDecimalDigit d = true) :
    (braced digits).filter (fun c => !isBlank c) = braced digits := by
  have hopen : ['$', '\x7b'].filter (fun c => !isBlank c) = ['$', '\x7b'] := by decide
  have hclose : ['\x7d'].filter (fun c => !isBlank c) = ['\x7d'] := by decide
  rw [show braced digits = ['$', '\x7b'] ++ (digits ++ ['\x7d']) from rfl, List.filter_append,
    List.filter_append, hopen, hclose, filter_digits hdigits]

theorem scopesOf_inj {cs ds : List Char} (h : scopesOf cs = scopesOf ds) : words cs = words ds :=
  List.map_injective_iff.2 (fun _ _ h => String.ofList_injective h) h

end Filled

namespace ScopeName

/-- A template that needs no filling in comes to itself, so leaving it as it is does no harm. -/
theorem expand_eq (name : ScopeName) (line : Array Char) (m : Regex.Match) :
    name.expand line m = scopesOf (filled line m name.template.toList) := by
  unfold expand
  split
  · rfl
  · next hdynamic =>
    rw [filled_of_static]
    · rfl
    · simpa [dynamic] using hdynamic

variable {a b digits : List Char}

/-- Digits behind a dollar sign are filled in with the text of their group, and digits between
braces only with a change of case. Without one they stay as they are, so the two spellings can come
to the same scopes only where the text of the group spells the braces itself. -/
theorem expand_placeholder (hne : digits ≠ []) (hdigits : ∀ d ∈ digits, isDecimalDigit d = true)
    (hb : NoDigitFirst b) (line : Array Char) (m : Regex.Match) :
    expand ⟨String.ofList (a ++ '$' :: (digits ++ b))⟩ line m = scopesOf (filled line m a ++
      (groupText? line m digits).getD ('$' :: digits) ++ filled line m b) ∧
    expand ⟨String.ofList (a ++ braced digits ++ b)⟩ line m =
      scopesOf (filled line m a ++ braced digits ++ filled line m b) ∧
    (∀ mark letterCase, (mark, letterCase) ∈ caseMarks →
      expand ⟨String.ofList (a ++ '$' :: '\x7b' :: (digits ++ mark ++ b))⟩ line m =
        scopesOf (filled line m a ++ ((groupText? line m digits).map letterCase.apply).getD
          ('$' :: '\x7b' :: (digits ++ mark)) ++ filled line m b)) ∧
    (expand ⟨String.ofList (a ++ '$' :: (digits ++ b))⟩ line m =
        expand ⟨String.ofList (a ++ braced digits ++ b)⟩ line m →
      ∃ text, groupText? line m digits = some text ∧
        text.filter (fun c => !isBlank c) = braced digits) := by
  have hplain : expand ⟨String.ofList (a ++ '$' :: (digits ++ b))⟩ line m =
      scopesOf (filled line m a ++ (groupText? line m digits).getD ('$' :: digits) ++
        filled line m b) := by
    rw [expand_eq, String.toList_ofList, filled_append, filled_plain line m hne hdigits hb,
      List.append_assoc]
  have hbraced : expand ⟨String.ofList (a ++ braced digits ++ b)⟩ line m =
      scopesOf (filled line m a ++ braced digits ++ filled line m b) := by
    have hdollar : braced digits ++ b = '$' :: '\x7b' :: (digits ++ ['\x7d'] ++ b) := rfl
    rw [expand_eq, String.toList_ofList, List.append_assoc, hdollar, filled_append, ← hdollar,
      filled_braced line m hne hdigits, List.append_assoc]
  refine ⟨hplain, hbraced, fun mark letterCase hmark => ?_, fun h => ?_⟩
  · rw [expand_eq, String.toList_ofList, filled_append, filled_mark line m hne hdigits hmark,
      List.append_assoc]
  · rw [hplain, hbraced] at h
    -- Blanks apart, the texts are the same, and so is what stands for the placeholder in them.
    have hflat := congrArg List.flatten (scopesOf_inj h)
    simp only [flatten_words, List.filter_append, List.append_cancel_left_eq,
      List.append_cancel_right_eq] at hflat
    rw [filter_braced hdigits] at hflat
    rcases hgroup : groupText? line m digits with _ | text
    · rw [hgroup, Option.getD_none, ← List.singleton_append, List.filter_append,
        filter_digits hdigits] at hflat
      have hlength := congrArg List.length hflat
      have : (['$'].filter fun c => !isBlank c).length = 1 := by decide
      simp only [braced, List.length_append, List.length_cons, List.length_nil, this] at hlength
      omega
    · rw [hgroup] at hflat
      exact ⟨text, rfl, hflat⟩

/-- The first group of a match inside a name. -/
theorem letter_filled_in :
    expand ⟨"x.$1.y"⟩ #['a'] ⟨[some ⟨0, 1⟩, some ⟨0, 1⟩]⟩ = ["x.a.y"] ∧
      expand ⟨"x.$\x7b1:/upcase\x7d.y"⟩ #['a'] ⟨[some ⟨0, 1⟩, some ⟨0, 1⟩]⟩ = ["x.A.y"] := by
  have hone : ∀ d ∈ ['1'], isDecimalDigit d = true := fun d hd => by
    cases List.mem_singleton.1 hd
    decide
  have hdot : NoDigitFirst ['.', 'y'] := by
    rintro c hc
    cases hc
    decide
  obtain ⟨hplain, -, hmark, -⟩ := expand_placeholder (a := ['x', '.']) (List.cons_ne_nil '1' [])
    hone hdot #['a'] ⟨[some ⟨0, 1⟩, some ⟨0, 1⟩]⟩
  exact ⟨hplain.trans (by decide +kernel),
    (hmark ":/upcase\x7d".toList .upper (by decide)).trans (by decide +kernel)⟩

/-- Braces keep a placeholder from being filled in. -/
theorem braces_not_filled_in :
    expand ⟨"x.$1"⟩ #['a'] ⟨[some ⟨0, 1⟩, some ⟨0, 1⟩]⟩ = ["x.a"] ∧
      expand ⟨"x.$\x7b1\x7d"⟩ #['a'] ⟨[some ⟨0, 1⟩, some ⟨0, 1⟩]⟩ = ["x.$\x7b1\x7d"] := by
  decide +kernel

end ScopeName

end Scopelight
