import Scopelight.Proofs.Match
import Scopelight.Proofs.Outcome

/-!
# Reading up to a parenthesis

Numbers, names, escapes, classes and intervals end where they end, whether the pattern goes on with
a closing parenthesis or is at its end there (`ReadsOn`).
-/

namespace Scopelight.Regex

open Text

/-- What is read from a text is read all the same when a closing parenthesis is put behind the
text. -/
def ReadsOn {α : Type} (f : List Char → Except Error (α × List Char)) : Prop :=
  ∀ cs a rest, f cs = .ok (a, rest) → f (cs ++ [')']) = .ok (a, rest ++ [')'])

section ReadsOn

variable {α β : Type} {f : List Char → Except Error (α × List Char)}

theorem readsOn_pure (a : α) : ReadsOn fun cs => .ok (a, cs) := by
  intro cs b rest h
  cases h
  rfl

theorem readsOn_error (e : Error) : ReadsOn fun _ => (.error e : Except Error (α × List Char)) := by
  intro cs a rest h
  cases h

theorem ReadsOn.bind (hf : ReadsOn f) {g : α × List Char → Except Error (β × List Char)}
    (hg : ∀ a, ReadsOn fun cs => g (a, cs)) : ReadsOn fun cs => f cs >>= g := by
  intro cs b rest h
  obtain ⟨⟨a, cs'⟩, ha, hb⟩ := bind_ok_iff.1 h
  exact bind_ok_iff.2 ⟨_, hf cs a cs' ha, hg a cs' b rest hb⟩

theorem ReadsOn.ite {p : Prop} [Decidable p] {g : List Char → Except Error (α × List Char)}
    (hf : ReadsOn f) (hg : ReadsOn g) : ReadsOn fun cs => if p then f cs else g cs := by
  split
  · exact hf
  · exact hg

/-- Two outcomes of reading, the second with a closing parenthesis behind what is left, and with an
answer that is in a relation to the first. -/
def Likewise (R : α → β → Prop) (x : Except Error (α × List Char))
    (x' : Except Error (β × List Char)) : Prop :=
  ∀ a rest, x = .ok (a, rest) → ∃ b, R a b ∧ x' = .ok (b, rest ++ [')'])

variable {R : α → β → Prop}

theorem likewise_ok {a : α} {b : β} (h : R a b) (rest : List Char) :
    Likewise R (.ok (a, rest)) (.ok (b, rest ++ [')'])) := by
  intro a' rest' ha
  cases ha
  exact ⟨b, h, rfl⟩

theorem likewise_error (e : Error) (x' : Except Error (β × List Char)) :
    Likewise R (.error e) x' :=
  fun _ _ h => nomatch h

theorem ReadsOn.likewise {γ : Type} {f : List Char → Except Error (γ × List Char)} (hf : ReadsOn f)
    {g : γ × List Char → Except Error (α × List Char)}
    {g' : γ × List Char → Except Error (β × List Char)}
    (hg : ∀ c rest, Likewise R (g (c, rest)) (g' (c, rest ++ [')']))) (cs : List Char) :
    Likewise R (f cs >>= g) (f (cs ++ [')']) >>= g') := by
  intro a rest h
  obtain ⟨⟨c, cs'⟩, hc, ha⟩ := bind_ok_iff.1 h
  obtain ⟨b, hb, hg⟩ := hg c cs' a rest ha
  exact ⟨b, hb, bind_ok_iff.2 ⟨_, hf cs c cs' hc, hg⟩⟩

/-- As `ReadsOn.likewise` where all that is left to do is to make an answer of what was read. -/
theorem ReadsOn.likewise_map {γ : Type} {f : List Char → Except Error (γ × List Char)}
    (hf : ReadsOn f) {k : γ → α} {k' : γ → β} (hk : ∀ c, R (k c) (k' c)) (cs : List Char) :
    Likewise R
      (do
        let (c, rest) ← f cs
        return (k c, rest))
      (do
        let (c, rest) ← f (cs ++ [')'])
        return (k' c, rest)) :=
  hf.likewise (fun c rest => likewise_ok (hk c) rest) cs

theorem readsOn_of_likewise (h : ∀ cs, Likewise Eq (f cs) (f (cs ++ [')']))) : ReadsOn f := by
  intro cs a rest ha
  obtain ⟨_, rfl, h⟩ := h cs a rest ha
  exact h

theorem exists_of_append_eq_cons {cs ds : List Char} {c : Char} (h : cs ++ [')'] = c :: ds)
    (hc : c ≠ ')') : ∃ cs', cs = c :: cs' ∧ ds = cs' ++ [')'] := by
  rcases cs with _ | ⟨d, cs⟩
  · cases h
    exact absurd rfl hc
  · cases h
    exact ⟨cs, rfl, rfl⟩

end ReadsOn

/-! ## Characters and classes -/

section Digits

variable {isDigit : Char → Bool}

theorem takeDigits_append (hparen : isDigit ')' = false) : ∀ {most : Nat} {cs ds rest : List Char},
    takeDigits isDigit most cs = (ds, rest) →
    takeDigits isDigit most (cs ++ [')']) = (ds, rest ++ [')'])
  | 0, cs, _, _, h => by
    cases h
    rfl
  | most + 1, [], _, _, h => by
    cases h
    simp [takeDigits, hparen]
  | most + 1, c :: cs, _, _, h => by
    rcases hds : takeDigits isDigit most cs with ⟨ds, rest⟩
    rw [takeDigits, hds] at h
    rw [List.cons_append, takeDigits, takeDigits_append hparen hds]
    split_ifs at h ⊢ <;> cases h <;> rfl

theorem takeDigits_of_length_le : ∀ (most : Nat) (cs : List Char), cs.length ≤ most →
    takeDigits isDigit most cs = takeDigits isDigit cs.length cs
  | 0, [], _ => rfl
  | most + 1, [], _ => by simp [takeDigits]
  | most + 1, c :: cs, h => by
    rw [List.length_cons, takeDigits, takeDigits,
      takeDigits_of_length_le most cs (Nat.le_of_succ_le_succ h)]

end Digits

theorem takeNumber_append {cs ds rest : List Char} (h : takeNumber cs = (ds, rest)) :
    takeNumber (cs ++ [')']) = (ds, rest ++ [')']) := by
  unfold takeNumber at h ⊢
  refine takeDigits_append (by decide) ?_
  rw [takeDigits_of_length_le _ cs (by simp), h]

theorem takeByte_append {cs : List Char} {b : Nat} {rest : List Char}
    (h : takeByte cs = some (b, rest)) : takeByte (cs ++ [')']) = some (b, rest ++ [')']) := by
  unfold takeByte at h
  split at h
  · rename_i cs
    rcases hds : takeDigits isHexDigit 2 cs with ⟨ds, rest'⟩
    rw [hds] at h
    cases h
    simp [takeByte, takeDigits_append (by decide) hds]
  · rename_i c cs hx
    rcases hds : takeDigits isOctalDigit 3 (c :: cs) with ⟨ds, rest'⟩
    have happ := takeDigits_append (by decide) hds
    rw [hds] at h
    split_ifs at h with hoctal
    cases h
    simp only [List.cons_append] at happ
    simp [takeByte, hoctal, happ]
  · cases h

theorem takeBytes_readsOn : ∀ n, ReadsOn (takeBytes n)
  | 0 => readsOn_pure []
  | n + 1 => by
    intro cs bs rest h
    rw [takeBytes] at h ⊢
    split at h
    · cases h
    · rename_i b rest' hbyte
      rw [takeByte_append hbyte]
      exact (takeBytes_readsOn n).bind (fun bs => readsOn_pure (b :: bs)) rest' bs rest h

theorem takeEncoded_readsOn (lead : Nat) : ReadsOn (takeEncoded lead) := by
  unfold takeEncoded
  split
  · exact readsOn_pure _
  · exact (takeBytes_readsOn _).bind fun bs => .ite (readsOn_error _) (readsOn_pure _)

/-- A code point between braces, or none, and then the text stands for itself. -/
theorem takeBraced_append {base most : Nat} {cs : List Char} {o : Option (Char × List Char)}
    (h : takeBraced base most cs = .ok o) :
    takeBraced base most (cs ++ [')']) = .ok (o.map fun x => (x.1, x.2 ++ [')'])) := by
  unfold takeBraced at h ⊢
  have hparen : (if base = 8 then isOctalDigit else isHexDigit) ')' = false := by
    split <;> decide
  rcases hds : takeDigits (if base = 8 then isOctalDigit else isHexDigit) most cs with ⟨ds, rest⟩
  rw [takeDigits_append hparen hds]
  rw [hds] at h
  dsimp only at h ⊢
  split at h
  · obtain ⟨c, hc, h⟩ := bind_ok_iff.1 h
    cases h
    exact bind_ok_iff.2 ⟨c, hc, rfl⟩
  · cases h
  · cases h
  · rename_i hclose hblank hbreak
    cases h
    split
    case h_4 => rfl
    all_goals
      rename_i hrest
      obtain ⟨rest', rfl, -⟩ := exists_of_append_eq_cons hrest (by decide)
    · exact absurd rfl (hclose _ _ _ rfl)
    · exact absurd rfl (hblank _ _ _ rfl)
    · exact absurd rfl (hbreak _ _ _ rfl)

theorem escapedChar_of_ne {c : Char} (hc : c ≠ 'c') (hC : c ≠ 'C') (hM : c ≠ 'M') (cs : List Char) :
    escapedChar c cs = .ok (namedChar c, cs) := by
  rw [escapedChar.eq_def]
  split
  case h_19 => rfl
  all_goals contradiction

theorem escapedChar_readsOn (c : Char) : ReadsOn (escapedChar c) := by
  intro cs d rest h
  have hne {x c : Char} {cs : List Char} (hend : c = x → cs = [] → False)
      (hmore : ∀ d ds, c = x → cs = d :: ds → False) : c ≠ x := by
    intro hc
    rcases cs with _ | ⟨d, ds⟩
    · exact hend hc rfl
    · exact hmore d ds hc rfl
  fun_induction escapedChar c cs generalizing d rest
  case case9 ih | case10 ih | case11 ih =>
    obtain ⟨⟨e, _⟩, he, h⟩ := bind_ok_iff.1 h
    cases h
    exact bind_ok_iff.2 ⟨(e, rest ++ [')']), ih e rest he, rfl⟩
  case case12 | case13 =>
    cases h
    rfl
  case case14 hend hmore hdelete =>
    cases h
    have hc := hne hend hmore
    exact escapedChar.eq_14 _ _ (fun h => absurd h hc) (fun _ _ h => absurd h hc) hdelete
  case case15 hend hmore hdelete =>
    cases h
    have hc := hne hend hmore
    exact escapedChar.eq_15 _ _ (fun h => absurd h hc) (fun _ _ h => absurd h hc) hdelete
  case case16 hend hmore =>
    cases h
    have hc := hne hend hmore
    exact escapedChar.eq_16 _ _ (fun h => absurd h hc) fun _ _ h => absurd h hc
  case case19 hend _ _ _ _ _ _ _ _ _ _ _ _ hcontrol _ _ hC hM =>
    cases h
    exact escapedChar_of_ne (hne hend hcontrol) hC hM _
  all_goals cases h

theorem takePropertyName_append : ∀ {cs name rest : List Char},
    takePropertyName cs = .ok (name, rest) →
    takePropertyName (cs ++ [')']) = .ok (name, rest ++ [')'])
  | [], _, _, h => nomatch h
  | c :: cs, name, rest, h => by
    by_cases hc : c = '\x7d'
    · subst hc
      cases h
      rfl
    · rw [takePropertyName.eq_3 _ _ fun h => hc h] at h
      rw [List.cons_append, takePropertyName.eq_3 _ _ fun h => hc h]
      split_ifs at h ⊢
      rcases hname : takePropertyName cs with e | ⟨name', rest'⟩
      · rw [hname] at h
        cases h
      · rw [hname] at h
        cases h
        rw [takePropertyName_append hname]

theorem propertyNamed_readsOn (negated : Bool) :
    ReadsOn fun cs => match takePropertyName cs with
      | .error name => .error (.unknownProperty (String.ofList name))
      | .ok (name, rest) =>
        match Property.ofName? name with
        | none => .error (.unknownProperty (String.ofList name))
        | some p => .ok (if negated then CharSet.compl (.property p) else .property p, rest) := by
  intro cs s rest h
  dsimp only at h ⊢
  split at h
  · cases h
  · rename_i hcs
    rw [takePropertyName_append hcs]
    dsimp only
    split at h
    · cases h
    · cases h
      rfl

/-- The mark that negates, if it is there, and what follows. -/
def takeCaret (found missing : Bool) (cs : List Char) : Bool × List Char :=
  match cs with
  | '^' :: rest => (found, rest)
  | _ => (missing, cs)

theorem takeCaret_append {found missing b : Bool} {cs rest : List Char}
    (h : takeCaret found missing cs = (b, rest)) :
    takeCaret found missing (cs ++ [')']) = (b, rest ++ [')']) := by
  unfold takeCaret at h
  split at h
  · cases h
    rfl
  · rename_i hne
    cases h
    unfold takeCaret
    split
    · rename_i hcs
      obtain ⟨cs', rfl, -⟩ := exists_of_append_eq_cons hcs (by decide)
      exact absurd rfl (hne _)
    · rfl

theorem ReadsOn.afterCaret {α : Type} {g : Bool → List Char → Except Error (α × List Char)}
    (hg : ∀ b, ReadsOn (g b)) (found missing : Bool) :
    ReadsOn fun cs => g (takeCaret found missing cs).1 (takeCaret found missing cs).2 := by
  intro cs a rest h
  rcases hcs : takeCaret found missing cs with ⟨b, cs'⟩
  dsimp only at h ⊢
  rw [hcs] at h
  rw [takeCaret_append hcs]
  exact hg b cs' a rest h

theorem readProperty_readsOn (negated : Bool) : ReadsOn (readProperty negated) :=
  ReadsOn.afterCaret propertyNamed_readsOn (!negated) negated

theorem bracketNameAhead_append (cs : List Char) :
    bracketNameAhead (cs ++ [')']) = bracketNameAhead cs := by
  fun_induction bracketNameAhead cs
  case case5 c cs hescape hname hclose ih =>
    rw [List.cons_append, bracketNameAhead.eq_def]
    split <;> rename_i hcs <;> simp only [List.cons.injEq, reduceCtorEq] at hcs
    · -- a backslash at the end, which the parenthesis goes with
      obtain ⟨rfl, hcs⟩ := hcs
      rcases cs with _ | ⟨d, cs⟩
      · cases hcs
        rfl
      · exact absurd rfl (hescape _ _ rfl)
    · obtain ⟨cs', rfl, -⟩ := exists_of_append_eq_cons hcs.2 (by decide)
      exact absurd rfl (hname _ hcs.1)
    · exact absurd hcs.1 hclose
    · rw [← hcs.2, ih]
  all_goals simp_all [bracketNameAhead]

section Escapes

variable {α β : Type} {R : α → β → Prop} {k : Char → α} {k' : Char → β}

theorem digits_likewise (hk : ∀ c, R (k c) (k' c)) {isDigit : Char → Bool}
    (hparen : isDigit ')' = false) (most base : Nat) (cs : List Char) :
    Likewise R
      (do
        let (ds, rest) := takeDigits isDigit most cs
        let (c, rest) ← takeEncoded (digitsValue base ds) rest
        return (k c, rest))
      (do
        let (ds, rest) := takeDigits isDigit most (cs ++ [')'])
        let (c, rest) ← takeEncoded (digitsValue base ds) rest
        return (k' c, rest)) := by
  rcases hds : takeDigits isDigit most cs with ⟨ds, rest⟩
  rw [takeDigits_append hparen hds]
  exact (takeEncoded_readsOn _).likewise_map hk rest

theorem octal_likewise (hk : ∀ c, R (k c) (k' c)) (cs : List Char) :
    Likewise R
      (do
        let (ds, rest) := takeDigits isOctalDigit 3 cs
        if digitsValue 8 ds > 0xff then throw .numberTooLarge
        let (c, rest) ← takeEncoded (digitsValue 8 ds) rest
        return (k c, rest))
      (do
        let (ds, rest) := takeDigits isOctalDigit 3 (cs ++ [')'])
        if digitsValue 8 ds > 0xff then throw .numberTooLarge
        let (c, rest) ← takeEncoded (digitsValue 8 ds) rest
        return (k' c, rest)) := by
  rcases hds : takeDigits isOctalDigit 3 cs with ⟨ds, rest⟩
  rw [takeDigits_append (by decide) hds]
  dsimp only
  split_ifs
  · exact likewise_error _ _
  · exact (takeEncoded_readsOn _).likewise_map hk rest

theorem fourDigits_likewise (hk : ∀ c, R (k c) (k' c)) (cs : List Char) :
    Likewise R
      (do
        let (ds, rest) := takeDigits isHexDigit 4 cs
        if ds.length < 4 then throw .tooFewDigits
        return (k (← charOfCode (digitsValue 16 ds)), rest))
      (do
        let (ds, rest) := takeDigits isHexDigit 4 (cs ++ [')'])
        if ds.length < 4 then throw .tooFewDigits
        return (k' (← charOfCode (digitsValue 16 ds)), rest)) := by
  rcases hds : takeDigits isHexDigit 4 cs with ⟨ds, rest⟩
  rw [takeDigits_append (by decide) hds]
  dsimp only
  split_ifs
  · exact likewise_error _ _
  · intro a rest' h
    obtain ⟨c, hc, h⟩ := bind_ok_iff.1 h
    cases h
    exact ⟨_, hk c, bind_ok_iff.2 ⟨c, hc, rfl⟩⟩

theorem braced_likewise (hk : ∀ c, R (k c) (k' c)) (base most : Nat) (letter : Char)
    (cs : List Char) :
    Likewise R
      (do
        match ← takeBraced base most cs with
        | some (c, rest) => return (k c, rest)
        | none => return (k letter, '\x7b' :: cs))
      (do
        match ← takeBraced base most (cs ++ [')']) with
        | some (c, rest) => return (k' c, rest)
        | none => return (k' letter, '\x7b' :: (cs ++ [')']))) := by
  intro a rest h
  obtain ⟨o, ho, h⟩ := bind_ok_iff.1 h
  rcases o with _ | ⟨c, rest'⟩ <;> cases h
  · exact ⟨_, hk letter, bind_ok_iff.2 ⟨_, takeBraced_append ho, rfl⟩⟩
  · exact ⟨_, hk c, bind_ok_iff.2 ⟨_, takeBraced_append ho, rfl⟩⟩

theorem ne_cons_append {d : Char} {cs : List Char} (hd : d ≠ ')') (h : ∀ ds, cs = d :: ds → False) :
    ∀ ds, cs ++ [')'] = d :: ds → False := by
  intro ds hcs
  obtain ⟨ds', rfl, -⟩ := exists_of_append_eq_cons hcs hd
  exact h ds' rfl

theorem ne_cons_append_of {p : Prop} {d : Char} {cs : List Char} (hd : d ≠ ')')
    (h : ∀ ds, p → cs = d :: ds → False) : ∀ ds, p → cs ++ [')'] = d :: ds → False :=
  fun ds hp => ne_cons_append hd (fun ds => h ds hp) ds

theorem escapedToken_readsOn : ReadsOn escapedToken := by
  refine readsOn_of_likewise fun cs => ?_
  rw [escapedToken.eq_def cs]
  split
  · exact likewise_error _ _
  · exact (readProperty_readsOn false).likewise_map (fun _ => rfl) _
  · exact (readProperty_readsOn true).likewise_map (fun _ => rfl) _
  · exact braced_likewise (fun _ => rfl) 16 8 'x' _
  · exact braced_likewise (fun _ => rfl) 8 11 'o' _
  · rename_i cs hx
    rw [List.cons_append, escapedToken.eq_6 _ (ne_cons_append (by decide) hx)]
    exact digits_likewise (fun _ => rfl) (by decide) 2 16 cs
  · exact fourDigits_likewise (fun _ => rfl) _
  · rename_i c cs hp hP hx ho hx' hu
    rw [List.cons_append, escapedToken.eq_8 c _ (ne_cons_append_of (by decide) hp)
      (ne_cons_append_of (by decide) hP) (ne_cons_append_of (by decide) hx)
      (ne_cons_append_of (by decide) ho) hx' hu]
    split
    · exact likewise_ok rfl cs
    · split_ifs
      · exact octal_likewise (fun _ => rfl) (c :: cs)
      · exact (escapedChar_readsOn c).likewise_map (fun _ => rfl) cs

end Escapes

theorem classToken_readsOn : ReadsOn classToken := by
  intro cs t rest h
  rw [classToken.eq_def] at h
  split at h
  · cases h
  · cases h
    rfl
  · cases h
    rfl
  · exact escapedToken_readsOn _ t rest h
  · rename_i cs
    rw [List.cons_append, List.cons_append, classToken.eq_5, bracketNameAhead_append]
    split_ifs at h ⊢ <;> cases h <;> rfl
  · rename_i cs hname
    cases h
    exact classToken.eq_6 _ (ne_cons_append (by decide) hname)
  · cases h
    rfl
  · rename_i c cs h₁ h₂ h₃ h₄ h₅ h₆
    cases h
    exact classToken.eq_8 c _ h₁ h₂ h₃ (ne_cons_append_of (by decide) h₄) h₅
      (ne_cons_append_of (by decide) h₆)

theorem endsLikeName_append (n : Nat) (cs : List Char) :
    endsLikeName n (cs ++ [')']) = endsLikeName n cs := by
  induction n generalizing cs with
  | zero => rcases cs with _ | ⟨c, _ | ⟨d, cs⟩⟩ <;> simp [endsLikeName]
  | succ n ih =>
    rcases cs with _ | ⟨c, cs⟩
    · cases n <;> rfl
    · by_cases hcolon : c = ':'
      · subst hcolon
        rcases cs with _ | ⟨d, cs⟩ <;> simp [endsLikeName]
      · by_cases hclose : c = ']'
        · subst hclose
          rfl
        · simp [endsLikeName, ih]

/-- The bracket name that a text begins with, if any, and what follows. -/
def knownName (names : List (String × Property)) (cs : List Char) : Option (Property × List Char) :=
  names.findSome? fun (name, p) =>
    if name.toList.isPrefixOf cs then some (p, cs.drop name.length) else none

theorem knownName_append {names : List (String × Property)}
    (hnames : ∀ x ∈ names, ')' ∉ x.1.toList) (cs : List Char) :
    knownName names (cs ++ [')']) = (knownName names cs).map fun x => (x.1, x.2 ++ [')']) := by
  induction names with
  | nil => rfl
  | cons x names ih =>
    obtain ⟨hx, hnames⟩ := List.forall_mem_cons.1 hnames
    unfold knownName at ih ⊢
    rw [List.findSome?_cons, List.findSome?_cons, ih hnames]
    by_cases hprefix : x.1.toList <+: cs
    · have hlength : x.1.length ≤ cs.length := String.length_toList ▸ hprefix.length_le
      have happ : x.1.toList <+: cs ++ [')'] := hprefix.trans (List.prefix_append _ _)
      simp [List.isPrefixOf_iff_prefix.2 hprefix, List.isPrefixOf_iff_prefix.2 happ,
        List.drop_append_of_le_length hlength]
    · have happ : ¬ x.1.toList <+: cs ++ [')'] := by
        rw [List.prefix_concat_iff]
        rintro (h | h)
        · exact hx (h ▸ by simp)
        · exact hprefix h
      simp [Bool.eq_false_iff.2 (mt List.isPrefixOf_iff_prefix.1 hprefix),
        Bool.eq_false_iff.2 (mt List.isPrefixOf_iff_prefix.1 happ)]

/-- A bracket name after the mark that negates it. -/
def bracketNamed (negated : Bool) (cs : List Char) : Except Error (Option (CharSet × List Char)) :=
  match (if cs.length < 7 then none else knownName Property.bracketNames cs) with
  | some (p, ':' :: ']' :: rest) =>
    .ok (some (if negated then .compl (.property p) else .property p, rest))
  | some _ => .error .unknownBracketClass
  | none => if endsLikeName 20 cs then .error .unknownBracketClass else .ok none

theorem readBracketName_eq (cs : List Char) : readBracketName cs =
    bracketNamed (takeCaret true false cs).1 (takeCaret true false cs).2 := rfl

theorem bracketNameAhead_name {name cs : List Char} (hslash : '\\' ∉ name) (hcolon : ':' ∉ name)
    (hclose : ']' ∉ name) : bracketNameAhead (name ++ cs) = bracketNameAhead cs := by
  induction name with
  | nil => rfl
  | cons c name ih =>
    obtain ⟨hslash, hslash'⟩ := List.ne_and_not_mem_of_not_mem_cons hslash
    obtain ⟨hcolon, hcolon'⟩ := List.ne_and_not_mem_of_not_mem_cons hcolon
    obtain ⟨hclose, hclose'⟩ := List.ne_and_not_mem_of_not_mem_cons hclose
    rw [← ih hslash' hcolon' hclose', List.cons_append]
    exact bracketNameAhead.eq_5 _ _ (fun _ _ heq => absurd heq.symm hslash)
      (fun _ heq => absurd heq.symm hcolon) (fun heq => absurd heq.symm hclose)

theorem bracketNameAhead_single (c : Char) : bracketNameAhead [c] = false := by
  rw [bracketNameAhead.eq_def]
  split <;> simp_all [bracketNameAhead]

theorem eq_of_bracketNameAhead_pair {c d : Char} (h : bracketNameAhead [c, d] = true) :
    c = ':' ∧ d = ']' := by
  rw [bracketNameAhead.eq_def] at h
  split at h <;> rename_i heq <;> cases heq
  · cases h
  · exact ⟨rfl, rfl⟩
  · cases h
  · rw [bracketNameAhead_single] at h
    cases h

/-- A text that is too short for a bracket name and its mark has none, unless it ends like one. -/
theorem knownName_of_short {cs : List Char} (hlength : cs.length < 7)
    (hahead : bracketNameAhead cs = true) (hends : endsLikeName 20 cs = false) :
    knownName Property.bracketNames cs = none := by
  have hnames : ∀ x ∈ Property.bracketNames, 4 ≤ x.1.toList.length ∧
      endsLikeName 20 (x.1.toList ++ [':', ']']) = true ∧
      '\\' ∉ x.1.toList ∧ ':' ∉ x.1.toList ∧ ']' ∉ x.1.toList := by decide
  rw [knownName, List.findSome?_eq_none_iff]
  rintro x hx
  obtain ⟨hlong, hname, hslash, hcolon, hclose⟩ := hnames x hx
  by_contra hfound
  have hprefix : x.1.toList <+: cs := by
    by_contra hno
    simp [Bool.eq_false_iff.2 (mt List.isPrefixOf_iff_prefix.1 hno)] at hfound
  obtain ⟨rest, rfl⟩ := hprefix
  rw [bracketNameAhead_name hslash hcolon hclose] at hahead
  rw [List.length_append] at hlength
  -- There is room for the mark behind the name only.
  have hrest : rest = [':', ']'] := by
    rcases rest with _ | ⟨c, _ | ⟨d, _ | ⟨e, rest⟩⟩⟩
    · cases hahead
    · rw [bracketNameAhead_single] at hahead
      cases hahead
    · obtain ⟨rfl, rfl⟩ := eq_of_bracketNameAhead_pair hahead
      rfl
    · simp only [List.length_cons] at hlength
      omega
  rw [hrest, hname] at hends
  cases hends

theorem bracketNamed_append {negated : Bool} {cs : List Char} (hahead : bracketNameAhead cs = true)
    {o : Option (CharSet × List Char)} (h : bracketNamed negated cs = .ok o) :
    bracketNamed negated (cs ++ [')']) = .ok (o.map fun x => (x.1, x.2 ++ [')'])) := by
  have hparen : ∀ x ∈ Property.bracketNames, ')' ∉ x.1.toList := by decide
  unfold bracketNamed at h ⊢
  rw [knownName_append hparen, endsLikeName_append, List.length_append]
  split at h
  · rename_i p rest hknown
    cases h
    split_ifs at hknown with hlength
    rw [if_neg (by simp; omega), hknown]
    rfl
  · cases h
  · rename_i hnone
    split_ifs at h with hends
    cases h
    have hknown : knownName Property.bracketNames cs = none := by
      split_ifs at hnone with hlength
      · exact knownName_of_short hlength hahead (Bool.eq_false_iff.2 hends)
      · exact hnone
    rw [hknown, Option.map_none, ite_self, if_neg hends]
    rfl

theorem readBracketName_append {cs : List Char} (hahead : bracketNameAhead cs = true)
    {o : Option (CharSet × List Char)} (h : readBracketName cs = .ok o) :
    readBracketName (cs ++ [')']) = .ok (o.map fun x => (x.1, x.2 ++ [')'])) := by
  have hrest : bracketNameAhead (takeCaret true false cs).2 = true := by
    unfold takeCaret
    split
    · exact hahead
    · exact hahead
  rcases hcs : takeCaret true false cs with ⟨negated, rest⟩
  rw [hcs] at hrest
  rw [readBracketName_eq, hcs] at h
  rw [readBracketName_eq, takeCaret_append hcs]
  exact bracketNamed_append hrest h

theorem escapedToken_ne_bracketName {cs rest : List Char} :
    escapedToken cs ≠ .ok (.bracketName, rest) := by
  intro h
  rw [escapedToken.eq_def] at h
  split at h
  · cases h
  · obtain ⟨_, -, h⟩ := bind_ok_iff.1 h
    cases h
  · obtain ⟨_, -, h⟩ := bind_ok_iff.1 h
    cases h
  · obtain ⟨o, -, h⟩ := bind_ok_iff.1 h
    cases o <;> cases h
  · obtain ⟨o, -, h⟩ := bind_ok_iff.1 h
    cases o <;> cases h
  · obtain ⟨_, -, h⟩ := bind_ok_iff.1 h
    cases h
  · dsimp only at h
    split_ifs at h
    · cases h
    · obtain ⟨_, -, h⟩ := bind_ok_iff.1 h
      cases h
  · split at h
    · cases h
    · split at h
      · dsimp only at h
        split at h
        · cases h
        · obtain ⟨_, -, h⟩ := bind_ok_iff.1 h
          cases h
      · obtain ⟨_, -, h⟩ := bind_ok_iff.1 h
        cases h

theorem bracketNameAhead_of_token {cs rest : List Char}
    (h : classToken cs = .ok (.bracketName, rest)) :
    ∃ name, rest = ':' :: name ∧ bracketNameAhead name = true := by
  rw [classToken.eq_def] at h
  split at h
  case h_4 => exact absurd h escapedToken_ne_bracketName
  case h_5 name =>
    split_ifs at h with hahead <;> cases h
    exact ⟨name, rfl, hahead⟩
  all_goals cases h

/-- The head of a class after the mark that negates it. -/
def classStart (negated : Bool) (cs : List Char) : Except Error (Bool × ClassState × List Char) :=
  match cs with
  | ']' :: rest =>
    if rest.contains ']' then
      .ok (negated, { ClassState.initial with phase := .value (some ']') }, rest)
    else .error .emptyClass
  | _ => .ok (negated, .initial, cs)

theorem classHead_eq (cs : List Char) : classHead cs =
    classStart (takeCaret true false cs).1 (takeCaret true false cs).2 := rfl

theorem classHead_append {cs : List Char} {negated : Bool} {st : ClassState} {rest : List Char}
    (h : classHead cs = .ok (negated, st, rest)) :
    classHead (cs ++ [')']) = .ok (negated, st, rest ++ [')']) := by
  rcases hcs : takeCaret true false cs with ⟨negated', rest'⟩
  rw [classHead_eq, hcs] at h
  rw [classHead_eq, takeCaret_append hcs]
  dsimp only at h ⊢
  unfold classStart at h ⊢
  split at h
  · split_ifs at h with hclosed
    cases h
    have happ : (rest ++ [')']).contains ']' = true :=
      List.contains_iff_mem.2 (List.mem_append_left _ (List.contains_iff_mem.1 hclosed))
    exact if_pos happ
  · rename_i hne
    cases h
    split
    · rename_i ds hds
      exact (ne_cons_append (by decide) hne ds hds).elim
    · rfl

theorem operandEnds_append (cs : List Char) : operandEnds (cs ++ [')']) = operandEnds cs := by
  fun_cases operandEnds cs
  · rfl
  · rfl
  · rename_i hclose hboth
    refine operandEnds.eq_3 _ (ne_cons_append (by decide) hclose) fun ds hds => ?_
    obtain ⟨cs', rfl, hcs'⟩ := exists_of_append_eq_cons hds (by decide)
    obtain ⟨cs'', rfl, -⟩ := exists_of_append_eq_cons hcs'.symm (by decide)
    exact hboth _ rfl

theorem readMembers_succ {fuel : Nat} {st : ClassState} {cs : List Char} {x : CharSet × List Char}
    (h : readMembers fuel st cs = .ok x) : readMembers (fuel + 1) st cs = .ok x := by
  induction fuel generalizing st cs x with
  | zero => cases h
  | succ fuel ih =>
    have hthen {m : Except Error ClassState} {rest : List Char}
        (h : (m >>= fun st => readMembers fuel st rest) = .ok x) :
        (m >>= fun st => readMembers (fuel + 1) st rest) = .ok x := by
      obtain ⟨st, hst, h⟩ := bind_ok_iff.1 h
      exact bind_ok_iff.2 ⟨st, hst, ih h⟩
    rw [readMembers] at h ⊢
    obtain ⟨⟨token, rest⟩, htoken, h⟩ := bind_ok_iff.1 h
    refine bind_ok_iff.2 ⟨_, htoken, ?_⟩
    dsimp only at h ⊢
    cases token with
    | close => exact h
    | char c => exact hthen h
    | set s => exact hthen h
    | dash =>
      dsimp only at h ⊢
      split at h
      · split_ifs at h ⊢
        · exact hthen h
        · exact ih h
      · exact hthen h
    | bracketName =>
      obtain ⟨o, ho, h⟩ := bind_ok_iff.1 h
      refine bind_ok_iff.2 ⟨o, ho, ?_⟩
      rcases o with _ | ⟨s, rest'⟩ <;> exact hthen h
    | openClass =>
      obtain ⟨⟨negated, inner, rest'⟩, hhead, h⟩ := bind_ok_iff.1 h
      refine bind_ok_iff.2 ⟨_, hhead, ?_⟩
      obtain ⟨⟨s, rest''⟩, hs, h⟩ := bind_ok_iff.1 h
      exact bind_ok_iff.2 ⟨_, ih hs, ih h⟩
    | both => exact ih h

theorem readMembers_readsOn (fuel : Nat) (st : ClassState) : ReadsOn (readMembers fuel st) := by
  intro cs s rest h
  induction fuel generalizing st cs s rest with
  | zero => cases h
  | succ fuel ih =>
    have hthen {m : Except Error ClassState} {ds : List Char}
        (h : (m >>= fun st => readMembers fuel st ds) = .ok (s, rest)) :
        (m >>= fun st => readMembers fuel st (ds ++ [')'])) = .ok (s, rest ++ [')']) := by
      obtain ⟨st, hst, h⟩ := bind_ok_iff.1 h
      exact bind_ok_iff.2 ⟨st, hst, ih _ _ _ _ h⟩
    rw [readMembers] at h ⊢
    obtain ⟨⟨token, ds⟩, htoken, h⟩ := bind_ok_iff.1 h
    refine bind_ok_iff.2 ⟨_, classToken_readsOn _ _ _ htoken, ?_⟩
    dsimp only at h ⊢
    cases token with
    | close =>
      cases h
      rfl
    | char c => exact hthen h
    | set s => exact hthen h
    | dash =>
      dsimp only at h ⊢
      rw [operandEnds_append]
      split at h
      · split_ifs at h ⊢
        · exact hthen h
        · exact ih _ _ _ _ h
      · exact hthen h
    | bracketName =>
      obtain ⟨name, rfl, hahead⟩ := bracketNameAhead_of_token htoken
      obtain ⟨o, ho, h⟩ := bind_ok_iff.1 h
      refine bind_ok_iff.2 ⟨_, readBracketName_append hahead ho, ?_⟩
      rcases o with _ | ⟨s, rest'⟩ <;> exact hthen h
    | openClass =>
      obtain ⟨⟨negated, inner, rest'⟩, hhead, h⟩ := bind_ok_iff.1 h
      refine bind_ok_iff.2 ⟨_, classHead_append hhead, ?_⟩
      obtain ⟨⟨s, rest''⟩, hs, h⟩ := bind_ok_iff.1 h
      exact bind_ok_iff.2 ⟨_, ih _ _ _ _ hs, ih _ _ _ _ h⟩
    | both => exact ih _ _ _ _ h

theorem readClass_readsOn (anyCase : Bool) : ReadsOn (readClass anyCase) := by
  intro cs s rest h
  obtain ⟨⟨negated, st, ds⟩, hhead, h⟩ := bind_ok_iff.1 h
  obtain ⟨⟨members, rest'⟩, hmembers, h⟩ := bind_ok_iff.1 h
  cases h
  refine bind_ok_iff.2 ⟨_, classHead_append hhead, bind_ok_iff.2 ⟨(members, rest ++ [')']), ?_, rfl⟩⟩
  have happ := readMembers_succ (readMembers_readsOn _ _ _ _ _ hmembers)
  simpa using happ

/-! ## Quantifiers and names -/

theorem readMode_append {least : Nat} {most : Option Nat} {cs : List Char} {q : Quantifier}
    {rest : List Char} (h : readMode least most cs = (q, rest)) :
    readMode least most (cs ++ [')']) = (q, rest ++ [')']) := by
  rw [readMode.eq_def] at h
  split at h
  · cases h
    rfl
  · cases h
    rfl
  · rename_i hreluctant hpossessive
    cases h
    exact readMode.eq_3 _ _ _ (ne_cons_append (by decide) hreluctant)
      (ne_cons_append (by decide) hpossessive)

/-- The bounds of an interval and what follows; a parenthesis may follow too. -/
abbrev boundsThen (rest : List Char) (x : Nat × Option Nat × Bool × List Char) :
    Nat × Option Nat × Bool × List Char := (x.1, x.2.1, x.2.2.1, x.2.2.2 ++ rest)

/-- The bounds of an interval once the lower one and a comma have been read. -/
def upperBound (low cs : List Char) : Except Error (Option (Nat × Option Nat × Bool × List Char)) :=
  let (high, rest) := takeNumber cs
  if digitsValue 10 high > maxRepeat then .error .repeatTooLarge
  else if low.isEmpty && high.isEmpty then .ok none
  else match rest with
    | '\x7d' :: rest =>
      .ok (some (digitsValue 10 low,
        if high.isEmpty then none else some (digitsValue 10 high), false, rest))
    | _ => .ok none

theorem upperBound_append {low cs : List Char} {o : Option (Nat × Option Nat × Bool × List Char)}
    (h : upperBound low cs = .ok o) :
    upperBound low (cs ++ [')']) = .ok (o.map (boundsThen [')'])) := by
  unfold upperBound at h ⊢
  rcases hhigh : takeNumber cs with ⟨high, rest⟩
  rw [hhigh] at h
  rw [takeNumber_append hhigh]
  dsimp only at h ⊢
  split at h
  · cases h
  · rename_i hsmall
    rw [if_neg hsmall]
    split at h
    · rename_i hempty
      cases h
      rw [if_pos hempty]
      rfl
    · rename_i hempty
      rw [if_neg hempty]
      split at h
      · cases h
        rfl
      · rename_i hbrace
        cases h
        split
        · rename_i ds hds
          exact (ne_cons_append (by decide) hbrace ds hds).elim
        · rfl

/-- The bounds of an interval, or none, and then its brace stands for itself. -/
theorem readBounds_append {cs : List Char} {o : Option (Nat × Option Nat × Bool × List Char)}
    (h : readBounds cs = .ok o) :
    readBounds (cs ++ [')']) = .ok (o.map (boundsThen [')'])) := by
  rcases hlow : takeNumber cs with ⟨low, rest⟩
  rcases cs with _ | ⟨c, cs⟩
  · cases h
    rfl
  · unfold readBounds at h ⊢
    rw [hlow] at h
    rw [takeNumber_append hlow]
    dsimp only [List.isEmpty_cons, List.cons_append] at h ⊢
    rw [if_neg Bool.false_ne_true] at h ⊢
    split at h
    · cases h
    · rename_i hsmall
      rw [if_neg hsmall]
      split at h
      · exact upperBound_append h
      · rename_i rest
        split at h
        · rename_i hempty
          cases h
          exact if_pos hempty
        · rename_i hempty
          cases h
          exact if_neg hempty
      · rename_i hcomma hbrace
        cases h
        split
        · rename_i ds hds
          exact (ne_cons_append (by decide) hcomma ds hds).elim
        · rename_i ds hds
          exact (ne_cons_append (by decide) hbrace ds hds).elim
        · rfl

theorem readInterval_append {cs : List Char} {o : Option (Quantifier × List Char)}
    (h : readInterval cs = .ok o) :
    readInterval (cs ++ [')']) = .ok (o.map fun x => (x.1, x.2 ++ [')'])) := by
  obtain ⟨b, hb, h⟩ := bind_ok_iff.1 h
  refine bind_ok_iff.2 ⟨_, readBounds_append hb, ?_⟩
  rcases b with _ | ⟨least, _ | most, exact, rest⟩
  · cases h
    rfl
  · dsimp only [Option.map_some, boundsThen] at h ⊢
    split at h <;> rename_i heq <;> cases heq
    · cases h
      rfl
    · rename_i hmark
      cases h
      split <;> rename_i heq <;>
        simp only [Option.some.injEq, Prod.mk.injEq, reduceCtorEq, false_and, and_false] at heq
      · exact (ne_cons_append (by decide) hmark _ heq.2.2.2).elim
      · obtain ⟨rfl, -, -, rfl⟩ := heq
        rfl
  · dsimp only [Option.map_some, boundsThen] at h ⊢
    split at h
    · rename_i hswapped
      rw [if_pos hswapped]
      cases h
      rfl
    · rename_i hswapped
      rw [if_neg hswapped]
      split at h
      · rename_i hexact
        rw [if_pos hexact]
        cases h
        rfl
      · rename_i hexact
        rw [if_neg hexact]
        split at h
        · cases h
          rfl
        · rename_i hmark
          cases h
          split
          · rename_i ds hds
            exact (ne_cons_append (by decide) hmark ds hds).elim
          · rfl

theorem nameBody_append {numeric : Bool} {close : Char} {whole : List Char}
    (whole' : List Char) {cs name rest : List Char}
    (h : nameBody numeric close cs whole = .ok (name, rest)) :
    nameBody numeric close (cs ++ [')']) whole' = .ok (name, rest ++ [')']) := by
  induction cs generalizing name rest with
  | nil => cases h
  | cons c cs ih =>
    rw [nameBody.eq_def] at h
    rw [List.cons_append, nameBody.eq_def]
    dsimp only at h ⊢
    split_ifs at h ⊢
    · cases h
      rfl
    · obtain ⟨⟨name', rest'⟩, hname, h⟩ := bind_ok_iff.1 h
      cases h
      exact bind_ok_iff.2 ⟨_, ih hname, rfl⟩

theorem readNewName_readsOn (close : Char) : ReadsOn (readNewName close) := by
  intro cs name rest h
  rcases cs with _ | ⟨c, cs⟩
  · cases h
  · unfold readNewName at h ⊢
    dsimp only [List.cons_append] at h ⊢
    split_ifs at h ⊢
    obtain ⟨⟨name', rest'⟩, hname, h⟩ := bind_ok_iff.1 h
    cases h
    exact bind_ok_iff.2 ⟨_, nameBody_append _ hname, rfl⟩

theorem readReference_readsOn (close : Char) : ReadsOn (readReference close) := by
  intro cs name rest h
  rcases cs with _ | ⟨c, cs⟩
  · cases h
  · unfold readReference at h ⊢
    dsimp only [List.cons_append] at h ⊢
    split_ifs at h ⊢
    · obtain ⟨⟨name', rest'⟩, hname, h⟩ := bind_ok_iff.1 h
      cases h
      exact bind_ok_iff.2 ⟨_, nameBody_append _ hname, rfl⟩
    · obtain ⟨⟨ds, rest'⟩, hname, h⟩ := bind_ok_iff.1 h
      refine bind_ok_iff.2 ⟨_, nameBody_append _ hname, ?_⟩
      dsimp only at h ⊢
      split at h
      · cases h
      · rename_i hzero
        rw [if_neg hzero]
        cases h
        rfl
    · obtain ⟨⟨name', rest'⟩, hname, h⟩ := bind_ok_iff.1 h
      cases h
      exact bind_ok_iff.2 ⟨_, nameBody_append _ hname, rfl⟩

end Scopelight.Regex
