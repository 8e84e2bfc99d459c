import Mathlib.Data.List.TakeWhile
import Scopelight.Proofs.Literal
import Scopelight.Proofs.ReadsOn

/-!
# Patterns in groups

A pattern that can be read on its own is read step by step as before when it stands in a group
(`Reading.step_likewise`), with the group's surroundings below all that it opens (`Reading.inside`).
It closes no group but its own, so a character before the group stays a part of every match
(`readPattern_enclosed`).
-/

namespace Scopelight.Regex

open Text

namespace Reading

/-- A reading within a further group. -/
def inside (r : Reading) (outer : OpenGroup) : Reading := { r with below := r.below ++ [outer] }

/-- What the outermost open group is to become. -/
def outermost (r : Reading) : GroupKind := (r.below.map OpenGroup.kind).getLastD r.top.kind

/-- Where a reading comes from another one, it comes from it within a further group too. -/
def Within (outer : OpenGroup) (r r' s : Reading) : Prop :=
  s = r'.inside outer ∧ r'.outermost = r.outermost

section Steps

variable {outer : OpenGroup} (r : Reading)

theorem within_push (n : Node) : Within outer r (r.push n) ((r.inside outer).push n) :=
  ⟨rfl, rfl⟩

theorem within_openGroup (kind : GroupKind) (inner : Options) :
    Within outer r (r.openGroup kind inner) ((r.inside outer).openGroup kind inner) :=
  ⟨rfl, List.getLastD_cons ..⟩

theorem refer_likewise (opening : Char) (cs : List Char) :
    Likewise (Within outer r) (r.refer opening cs) ((r.inside outer).refer opening (cs ++ [')'])) := by
  refine (readReference_readsOn _).likewise (fun target rest => ?_) cs
  have hpush (groups : List Nat) : Likewise (Within outer r)
      (if groups.contains 0 then .error .badBackreference
        else .ok (r.push (.backref groups r.options.anyCase), rest))
      (if groups.contains 0 then .error .badBackreference
        else .ok ((r.inside outer).push (.backref groups r.options.anyCase), rest ++ [')'])) := by
    split
    · exact likewise_error _ _
    · exact likewise_ok (r.within_push _) rest
  cases target with
  | number n => exact hpush [n]
  | relative back n => exact hpush [r.relativeGroup back n]
  | name name =>
    have hnames : (r.inside outer).groupsNamed name = r.groupsNamed name := rfl
    dsimp only
    rw [hnames]
    split
    · exact likewise_error _ _
    · exact hpush _

theorem callGroup_likewise (opening : Char) (cs : List Char) :
    Likewise (Within outer r) (r.callGroup opening cs)
      ((r.inside outer).callGroup opening (cs ++ [')'])) := by
  refine (readReference_readsOn _).likewise (fun target rest => ?_) cs
  exact likewise_ok (within_push { r with calls := _ } (.call r.calls.length)) rest

theorem escapedDigit_likewise (c : Char) (cs : List Char) :
    Likewise (Within outer r) (r.escapedDigit c cs)
      ((r.inside outer).escapedDigit c (cs ++ [')'])) := by
  have hgroups : (r.inside outer).groups = r.groups := rfl
  rcases hds : takeNumber (c :: cs) with ⟨ds, rest⟩
  unfold escapedDigit
  rw [← List.cons_append, takeNumber_append hds, hds]
  dsimp only
  rw [hgroups]
  split
  · exact likewise_ok (r.within_push _) rest
  · split
    · exact likewise_ok (r.within_push _) cs
    · exact octal_likewise (fun d => r.within_push (.char d r.options.anyCase)) (c :: cs)

/-- What stands behind a backslash, but for two letters that ask for what comes next and stand for
themselves if nothing does. -/
theorem escape_likewise {cs : List Char} (hx : cs ≠ ['x']) (hu : cs ≠ ['u']) :
    Likewise (Within outer r) (r.escape cs) ((r.inside outer).escape (cs ++ [')'])) := by
  have hpush (c : Char) : Within outer r (r.pushChar c) ((r.inside outer).pushChar c) :=
    r.within_push _
  rw [escape.eq_def r cs]
  split
  · exact likewise_error _ _
  · exact (readProperty_readsOn false).likewise_map (fun s => r.within_push (.set s)) _
  · exact (readProperty_readsOn true).likewise_map (fun s => r.within_push (.set s)) _
  · exact r.refer_likewise '<' _
  · exact r.refer_likewise '\'' _
  · exact r.callGroup_likewise '<' _
  · exact r.callGroup_likewise '\'' _
  · exact braced_likewise hpush 16 8 'x' _
  · exact braced_likewise hpush 8 11 'o' _
  · rename_i c cs hbrace
    rw [List.cons_append, List.cons_append, escape.eq_10 _ _ _ hbrace]
    exact digits_likewise hpush (by decide) 2 16 (c :: cs)
  · rename_i c cs
    exact fourDigits_likewise hpush (c :: cs)
  · exact likewise_error _ _
  · exact likewise_error _ _
  · exact likewise_error _ _
  · rename_i c cs hp hP hk hk' hg hg' hx' ho hx'' hu' hX hy hY
    have hne (d : Char) (hd : c :: cs ≠ [d]) (h : ∀ e es, c = d → cs = e :: es → False) :
        ∀ e es, c = d → cs ++ [')'] = e :: es → False := by
      rintro e es rfl -
      cases cs with
      | nil => exact hd rfl
      | cons f fs => exact h f fs rfl rfl
    rw [List.cons_append, escape.eq_15 _ c _ (ne_cons_append_of (by decide) hp)
      (ne_cons_append_of (by decide) hP) (ne_cons_append_of (by decide) hk)
      (ne_cons_append_of (by decide) hk') (ne_cons_append_of (by decide) hg)
      (ne_cons_append_of (by decide) hg') (ne_cons_append_of (by decide) hx')
      (ne_cons_append_of (by decide) ho) (hne 'x' hx hx'') (hne 'u' hu hu') hX hy hY]
    split
    · exact likewise_ok (r.within_push _) cs
    · split
      · exact r.escapedDigit_likewise c cs
      · exact (escapedChar_readsOn c).likewise_map hpush cs

/-! ### Groups -/

theorem skipComment_append {cs rest : List Char} (h : skipComment cs = .ok rest) :
    skipComment (cs ++ [')']) = .ok (rest ++ [')']) := by
  fun_induction skipComment cs
  case case4 c cs hclose hescape ih =>
    rw [List.cons_append, skipComment.eq_4 _ _ hclose]
    · exact ih h
    · rintro d ds rfl hds
      rcases cs with _ | ⟨e, cs⟩
      · cases h
      · exact hescape _ _ rfl rfl
  all_goals simp_all [skipComment]

theorem readOptions_append {o o' : Options} {off grouped : Bool} {cs rest : List Char}
    (h : readOptions o off cs = .ok (o', grouped, rest)) :
    readOptions o off (cs ++ [')']) = .ok (o', grouped, rest ++ [')']) := by
  fun_induction readOptions o off cs <;> simp_all [readOptions]

theorem openNamed_likewise (close : Char) (cs : List Char) :
    Likewise (Within outer r) (r.openNamed close cs)
      ((r.inside outer).openNamed close (cs ++ [')'])) := by
  refine (readNewName_readsOn close).likewise (fun name rest => ?_) cs
  exact likewise_ok (within_openGroup { r with groups := _, names := _ } _ r.options) rest

theorem special_likewise (cs : List Char) :
    Likewise (Within outer r) (r.special cs) ((r.inside outer).special (cs ++ [')'])) := by
  rw [special.eq_def r cs]
  split
  · exact likewise_error _ _
  · exact likewise_ok (r.within_openGroup .plain _) _
  · exact likewise_ok (r.within_openGroup (.ahead false) _) _
  · exact likewise_ok (r.within_openGroup (.ahead true) _) _
  · exact likewise_ok (r.within_openGroup .atomic _) _
  · exact likewise_ok (r.within_openGroup (.behind false) _) _
  · exact likewise_ok (r.within_openGroup (.behind true) _) _
  · exact likewise_error _ _
  · rename_i cs hbehind hnot hend
    rw [List.cons_append, special.eq_9 _ _ (ne_cons_append (by decide) hbehind)
      (ne_cons_append (by decide) hnot) (by simp)]
    exact r.openNamed_likewise '>' cs
  · exact r.openNamed_likewise '\'' _
  · intro r' rest h
    obtain ⟨rest', hskip, h⟩ := bind_ok_iff.1 h
    cases h
    exact ⟨_, ⟨rfl, rfl⟩, bind_ok_iff.2 ⟨_, skipComment_append hskip, rfl⟩⟩
  · rename_i c cs hplain hahead hnot hatomic hbehind hbehind' hend hname hname' hcomment
    rw [List.cons_append, special.eq_12 _ c _ hplain hahead hnot hatomic
      (ne_cons_append_of (by decide) hbehind) (ne_cons_append_of (by decide) hbehind')
      (by simp) hname hname' hcomment]
    split
    · exact likewise_error _ _
    · intro r' rest h
      obtain ⟨⟨o, grouped, rest'⟩, hoptions, h⟩ := bind_ok_iff.1 h
      cases h
      exact ⟨_, r.within_openGroup _ _, bind_ok_iff.2 ⟨_, readOptions_append hoptions, rfl⟩⟩

theorem closeFrom_inside {r r' : Reading} {top : OpenGroup} {below : List OpenGroup}
    (h : r.closeFrom top below = .ok r') :
    (r.inside outer).closeFrom top (below ++ [outer]) = .ok (r'.inside outer) ∧
      r'.outermost = (below.map OpenGroup.kind).getLastD top.kind := by
  induction below generalizing top with
  | nil => cases h
  | cons next below ih =>
    rw [closeFrom] at h
    rw [List.cons_append, closeFrom, List.map_cons, List.getLastD_cons]
    split_ifs at h ⊢
    · exact ih h
    · cases h
      exact ⟨rfl, rfl⟩

theorem closeGroup_likewise (cs : List Char) :
    Likewise (Within outer r) (do return (← r.closeGroup, cs))
      (do return (← (r.inside outer).closeGroup, cs ++ [')'])) := by
  intro r' rest h
  obtain ⟨r'', hclose, h⟩ := bind_ok_iff.1 h
  cases h
  obtain ⟨hinside, hkind⟩ := closeFrom_inside hclose
  exact ⟨_, ⟨rfl, hkind⟩, bind_ok_iff.2 ⟨_, hinside, rfl⟩⟩

/-! ### Items -/

theorem quantify_likewise (q : Quantifier) (cs : List Char) :
    Likewise (Within outer r) (do return (← r.quantify q, cs))
      (do return (← (r.inside outer).quantify q, cs ++ [')'])) := by
  have htop : (r.inside outer).top = r.top := rfl
  unfold quantify
  rw [htop]
  split
  · exact likewise_error _ _
  · rename_i n ns hitems
    exact likewise_ok ⟨rfl, rfl⟩ cs

theorem skipLine_append {cs : List Char} (h : '\n' ∈ cs) :
    skipLine (cs ++ [')']) = skipLine cs ++ [')'] := by
  have hne : cs.dropWhile (· != '\n') ≠ [] := fun hnil => by
    simpa using List.dropWhile_eq_nil_iff.1 hnil _ h
  unfold skipLine
  rw [List.dropWhile_append, if_neg (by simpa using hne),
    List.drop_append_of_le_length (List.length_pos_iff.2 hne)]

/-- Whether what is read next ends with the pattern only because the pattern ends there. -/
def OpenEnded (c : Char) (cs : List Char) : Prop :=
  c = '\\' ∧ (cs = ['x'] ∨ cs = ['u']) ∨ c = '#' ∧ r.options.spaced = true ∧ '\n' ∉ cs

theorem step_likewise {c : Char} {cs : List Char} (h : ¬ r.OpenEnded c cs) :
    Likewise (Within outer r) (r.step c cs) ((r.inside outer).step c (cs ++ [')'])) := by
  have hquantify (least : Nat) (most : Option Nat) : Likewise (Within outer r)
      (do return (← r.quantify (readMode least most cs).1, (readMode least most cs).2))
      (do return (← (r.inside outer).quantify (readMode least most (cs ++ [')'])).1,
        (readMode least most (cs ++ [')'])).2)) := by
    rcases hmode : readMode least most cs with ⟨q, rest⟩
    rw [readMode_append hmode]
    exact r.quantify_likewise q rest
  unfold step
  split
  · refine r.escape_likewise (fun hx => h ?_) fun hu => h ?_
    · exact .inl ⟨rfl, .inl hx⟩
    · exact .inl ⟨rfl, .inr hu⟩
  · exact (readClass_readsOn _).likewise_map (fun s => r.within_push (.set s)) cs
  · split
    · exact r.special_likewise _
    · exact likewise_error _ _
    · rename_i cs' hspecial hend
      split
      · rename_i ds hds
        exact (ne_cons_append (by decide) hspecial ds hds).elim
      · rename_i hnil
        exact absurd hnil (by simp)
      · exact likewise_ok (within_openGroup { r with groups := _ } _ r.options) cs
  · exact r.closeGroup_likewise cs
  · exact likewise_ok ⟨rfl, rfl⟩ cs
  · exact likewise_ok (r.within_push _) cs
  · exact likewise_ok (r.within_push _) cs
  · exact likewise_ok (r.within_push _) cs
  · exact hquantify 0 none
  · exact hquantify 1 none
  · exact hquantify 0 (some 1)
  · intro r' rest h
    obtain ⟨o, ho, h⟩ := bind_ok_iff.1 h
    rcases o with _ | ⟨q, rest'⟩
    · cases h
      exact ⟨_, r.within_push _, bind_ok_iff.2 ⟨_, readInterval_append ho, rfl⟩⟩
    · obtain ⟨s, hs, h⟩ := r.quantify_likewise q rest' r' rest h
      exact ⟨s, hs, bind_ok_iff.2 ⟨_, readInterval_append ho, h⟩⟩
  · have hoptions : (r.inside outer).options = r.options := rfl
    rw [hoptions]
    split
    · rename_i hcomment
      obtain ⟨hspaced, hhash⟩ := Bool.and_eq_true_iff.1 hcomment
      have hbreak : '\n' ∈ cs := by
        by_contra hbreak
        exact h (.inr ⟨beq_iff_eq.1 hhash, hspaced, hbreak⟩)
      rw [skipLine_append hbreak]
      exact likewise_ok ⟨rfl, rfl⟩ _
    · split
      · exact likewise_ok ⟨rfl, rfl⟩ cs
      · exact likewise_ok (r.within_push _) cs

/-- The same groups are open. -/
def SameGroups (r r' : Reading) : Prop := r'.top.kind = r.top.kind ∧ r'.below = r.below

theorem SameGroups.outermost {r r' : Reading} (h : r.SameGroups r') : r'.outermost = r.outermost := by
  obtain ⟨hkind, hbelow⟩ := h
  unfold Reading.outermost
  rw [hkind, hbelow]

/-- Where a step ends with the pattern only because the pattern ends there, a parenthesis behind it
is skipped as a part of a comment, or it ends an escape that stands for the byte zero then. -/
theorem step_openEnded {c : Char} {cs ds rest : List Char} {r' s : Reading} (hopen : r.OpenEnded c cs)
    (h : r.step c cs = .ok (r', rest))
    (hs : (r.inside outer).step c (cs ++ [')']) = .ok (s, ds)) :
    rest = [] ∧ r.SameGroups r' ∧
      ∃ q, r'.SameGroups q ∧ s = q.inside outer ∧ (ds = [] ∨ ds = [')']) := by
  rcases hopen with ⟨rfl, rfl | rfl⟩ | ⟨rfl, hspaced, hbreak⟩
  · cases h
    cases hs
    exact ⟨rfl, ⟨rfl, rfl⟩, r.pushChar (Char.ofNat 0), ⟨rfl, rfl⟩, rfl, .inr rfl⟩
  · cases hs
  · have hstep (r : Reading) (hspaced : r.options.spaced = true) (cs : List Char)
        (hbreak : '\n' ∉ cs) : r.step '#' cs = .ok (r, []) := by
      have hall : cs.dropWhile (· != '\n') = [] :=
        List.dropWhile_eq_nil_iff.2 fun d hd => bne_iff_ne.2 fun heq => hbreak (heq ▸ hd)
      have hskip : skipLine cs = [] := by
        rw [skipLine, hall, List.drop_nil]
      rw [← hskip]
      exact if_pos (by rw [hspaced]; rfl)
    rw [hstep r hspaced cs hbreak] at h
    rw [hstep (r.inside outer) hspaced _ (by simpa using hbreak)] at hs
    cases h
    cases hs
    exact ⟨rfl, ⟨rfl, rfl⟩, r, ⟨rfl, rfl⟩, rfl, .inl rfl⟩

end Steps

/-! ### Runs -/

section Runs

variable {outer : OpenGroup} {r r' s : Reading} {n root : Node}

theorem step_of_run {fuel : Nat} {c : Char} {cs : List Char} (h : r.run fuel (c :: cs) = .ok s) :
    ∃ fuel' r' rest, fuel = fuel' + 1 ∧ r.step c cs = .ok (r', rest) ∧ r'.run fuel' rest = .ok s := by
  rcases fuel with _ | fuel
  · cases h
  · obtain ⟨⟨r', rest⟩, hstep, hrun⟩ := bind_ok_iff.1 h
    exact ⟨fuel, r', rest, rfl, hstep, hrun⟩

/-- A pattern that has come to its end has not come to the end of the group around it. -/
theorem finishFrom_inside {top top' : OpenGroup} {below : List OpenGroup}
    (h : finishFrom top below = .ok n) (hplain : (below.map OpenGroup.kind).getLastD top.kind = .plain)
    (hkind : top'.kind = top.kind) :
    finishFrom top' (below ++ [outer]) = .error .unclosedGroup := by
  induction below generalizing top top' with
  | nil =>
    have hkind : top'.kind = .plain := hkind.trans hplain
    simp [finishFrom, hkind]
  | cons next below ih =>
    rw [finishFrom] at h
    split_ifs at h with htail
    rw [List.cons_append, finishFrom, if_pos (hkind.trans htail)]
    rw [List.map_cons, List.getLastD_cons] at hplain
    exact ih h hplain rfl

/-- Where a pattern has come to its end, a parenthesis closes the group around it. -/
theorem closeFrom_outermost {top top' : OpenGroup} {below : List OpenGroup}
    (h : finishFrom top below = .ok n) (hplain : (below.map OpenGroup.kind).getLastD top.kind = .plain)
    (hkind : top'.kind = top.kind) (hs : r.closeFrom top' (below ++ [outer]) = .ok s) :
    s.below = [] ∧ ∃ m, s.top = { outer with items := m :: outer.items } := by
  induction below generalizing top top' with
  | nil =>
    have hkind : top'.kind = .plain := hkind.trans hplain
    rw [List.nil_append, closeFrom, if_neg (by simp [hkind])] at hs
    cases hs
    exact ⟨rfl, _, rfl⟩
  | cons next below ih =>
    rw [finishFrom] at h
    split_ifs at h with htail
    rw [List.cons_append, closeFrom, if_pos (hkind.trans htail)] at hs
    rw [List.map_cons, List.getLastD_cons] at hplain
    exact ih h hplain (by rfl) hs

/-- What is left to read where a pattern has come to its end is the parenthesis of the group around
it; if that has been skipped the group is never closed. -/
theorem run_close {fuel : Nat} {ds : List Char} (h : r.finish = .ok n) (hplain : r.outermost = .plain)
    {q : Reading} (hq : r.SameGroups q) (hds : ds = [] ∨ ds = [')'])
    (hs : (q.inside outer).run fuel ds = .ok s) (hroot : s.finish = .ok root) :
    s.below = [] ∧ ∃ m, s.top = { outer with items := m :: outer.items } := by
  obtain ⟨hkind, hbelow⟩ := hq
  rcases hds with rfl | rfl
  · rw [run_nil] at hs
    cases hs
    have hunclosed : finishFrom q.top (r.below ++ [outer]) = .error .unclosedGroup :=
      finishFrom_inside h hplain hkind
    rw [← hbelow] at hunclosed
    exact absurd (hunclosed.symm.trans hroot) (by simp)
  · obtain ⟨fuel, q', rest, rfl, hstep, hrun⟩ := step_of_run hs
    obtain ⟨q'', hclose, hstep⟩ := bind_ok_iff.1 hstep
    cases hstep
    rw [run_nil] at hrun
    cases hrun
    have hclose : (q.inside outer).closeFrom q.top (q.below ++ [outer]) = .ok s := hclose
    rw [hbelow] at hclose
    exact closeFrom_outermost h hplain hkind hclose

/-- A pattern in a group, from anywhere within it: when all has been read, the group is a part of
what is around it. The induction is on the steps of the pattern when it is read on its own. -/
theorem run_inside {fuel fuel' : Nat} {cs : List Char} (h : r.run fuel cs = .ok r')
    (hfinish : r'.finish = .ok n) (hplain : r.outermost = .plain)
    (hs : (r.inside outer).run fuel' (cs ++ [')']) = .ok s) (hroot : s.finish = .ok root) :
    s.below = [] ∧ ∃ m, s.top = { outer with items := m :: outer.items } := by
  induction fuel generalizing r cs fuel' with
  | zero =>
    rcases cs with _ | ⟨c, cs⟩
    · cases h
      exact run_close hfinish hplain ⟨rfl, rfl⟩ (.inr rfl) hs hroot
    · cases h
  | succ fuel ih =>
    rcases cs with _ | ⟨c, cs⟩
    · cases h
      exact run_close hfinish hplain ⟨rfl, rfl⟩ (.inr rfl) hs hroot
    · obtain ⟨_, r₁, rest, ⟨⟩, hstep, hrun⟩ := step_of_run h
      obtain ⟨fuel', s₁, ds, rfl, hstep', hs⟩ := step_of_run hs
      by_cases hopen : r.OpenEnded c cs
      · obtain ⟨rfl, hsame, q, hq, rfl, hds⟩ := r.step_openEnded hopen hstep hstep'
        rw [run_nil] at hrun
        cases hrun
        exact run_close hfinish (hsame.outermost.trans hplain) hq hds hs hroot
      · obtain ⟨_, ⟨rfl, hkind⟩, hinside⟩ := r.step_likewise hopen r₁ rest hstep
        cases hstep'.symm.trans hinside
        exact ih hrun (hkind.trans hplain) hs

end Runs

end Reading

/-- A pattern in a group behind a character: the character is a part of every match. -/
theorem readPattern_enclosed {c : Char} (hc : needsEscape c = false) {cs : List Char}
    {x : Node × Nat} (h : readPattern cs = .ok x) {root : Node} {groups : Nat}
    (hroot : readPattern (c :: '(' :: '?' :: ':' :: (cs ++ [')'])) = .ok (root, groups)) :
    ∃ n, root = .seq (.char c false) n := by
  obtain ⟨r, hrun, h⟩ := bind_ok_iff.1 h
  obtain ⟨n, hfinish, -⟩ := bind_ok_iff.1 h
  obtain ⟨s, hs, hroot⟩ := bind_ok_iff.1 hroot
  obtain ⟨tree, htree, hroot⟩ := bind_ok_iff.1 hroot
  obtain ⟨root', hbind, hroot⟩ := bind_ok_iff.1 hroot
  obtain ⟨_, -, hroot⟩ := bind_ok_iff.1 hroot
  cases hroot
  -- The character and the marks that open the group are read in a step each.
  rw [List.length_cons, Reading.run_of_step (Reading.step_of_not_needsEscape _ hc _)] at hs
  obtain ⟨fuel, r', rest, -, hstep, hs⟩ := Reading.step_of_run hs
  cases hstep
  have hs : (Reading.initial.inside ⟨.plain, .initial, [], [.char c false]⟩).run fuel (cs ++ [')']) =
      .ok s := hs
  obtain ⟨hbelow, m, htop⟩ := Reading.run_inside hrun hfinish rfl hs htree
  rw [Reading.finish, hbelow, htop] at htree
  cases htree
  obtain ⟨a, ha, hbind⟩ := bind_ok_iff.1 hbind
  cases ha
  obtain ⟨b, hb, hbind⟩ := bind_ok_iff.1 hbind
  cases hbind
  exact ⟨b.folded, Node.folded_seq_char c b⟩

end Scopelight.Regex
