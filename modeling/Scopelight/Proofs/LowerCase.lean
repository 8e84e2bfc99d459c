import Scopelight.Proofs.Ascii

/-!
# Lower case

No lowercase form is changed by another lowering (`lowered_of_mem_mapCase`), so a text in lower
case stays as it is (`lowerAfter_of_lowered`). What stands before and behind a text matters only for
where words end: neutral characters change nothing of the rest (`lowerChars_between`), and neither
does the case of ASCII letters (`lowerChars_eq_of_map_toLower`).
-/

namespace Scopelight.Text

/-! ## Case pairs -/

/-- All members of a run are even, or all are odd. -/
def Run.oneParity (r : Run) : Bool := r.step == 2 || r.lo == r.hi

/-- Runs that lie apart, or one of even and one of odd members. -/
def Run.apart (r q : Run) : Bool :=
  q.hi < r.lo || r.hi < q.lo || (r.oneParity && q.oneParity && r.lo % 2 != q.lo % 2)

/-- No member of the run is moved. -/
def Run.stays (r : Run) : List Shift → Bool
  | [] => true
  | s :: ss => r.hi < s.run.lo || (r.apart s.run && r.stays ss)

/-- Where the members of the run are moved to. -/
def Shift.image (s : Shift) : Run where
  lo := (s.run.lo + s.distance).toNat
  hi := (s.run.hi + s.distance).toNat
  step := s.run.step

section Runs

variable {r q : Run} {s : Shift} {ss : List Shift} {n : Nat}

theorem Run.has_iff : r.has n = true ↔ (r.lo ≤ n ∧ n ≤ r.hi) ∧ (n - r.lo) % r.step = 0 := by
  simp [Run.has]

theorem Run.mod_eq_of_oneParity (h : r.oneParity = true) (hn : r.has n = true) :
    n % 2 = r.lo % 2 := by
  obtain ⟨⟨hlo, hhi⟩, hstep⟩ := Run.has_iff.1 hn
  simp only [Run.oneParity, Bool.or_eq_true, beq_iff_eq] at h
  rcases h with h | h
  · rw [h] at hstep
    omega
  · omega

theorem Run.not_has_of_apart (h : r.apart q = true) (hn : r.has n = true) : q.has n = false := by
  rw [← Bool.not_eq_true]
  intro hq
  obtain ⟨⟨hlo, hhi⟩, -⟩ := Run.has_iff.1 hn
  obtain ⟨⟨hlo', hhi'⟩, -⟩ := Run.has_iff.1 hq
  simp only [Run.apart, Bool.or_eq_true, Bool.and_eq_true, decide_eq_true_eq, bne_iff_ne] at h
  rcases h with (h | h) | ⟨⟨hr, hq'⟩, hne⟩
  · omega
  · omega
  · exact hne ((mod_eq_of_oneParity hr hn).symm.trans (mod_eq_of_oneParity hq' hq))

theorem Shift.has_image (hs : 0 ≤ s.run.lo + s.distance) (hn : s.run.has n = true) :
    s.image.has (n + s.distance).toNat = true := by
  obtain ⟨⟨hlo, hhi⟩, hstep⟩ := Run.has_iff.1 hn
  have hdiff : (n + s.distance).toNat - (s.run.lo + s.distance).toNat = n - s.run.lo := by omega
  exact Run.has_iff.2 ⟨⟨Int.toNat_le_toNat (by omega), Int.toNat_le_toNat (by omega)⟩, by
    rwa [Shift.image, hdiff]⟩

theorem shifted_of_stays (h : r.stays ss = true) (hn : r.has n = true) : shifted n ss = n := by
  induction ss with
  | nil => rfl
  | cons s ss ih =>
    simp only [Run.stays, Bool.or_eq_true, Bool.and_eq_true, decide_eq_true_eq] at h
    rcases h with h | ⟨hapart, h⟩
    · obtain ⟨⟨-, hhi⟩, -⟩ := Run.has_iff.1 hn
      rw [shifted, if_pos (by omega)]
    · rw [shifted, Run.not_has_of_apart hapart hn, ih h]
      simp

theorem shifted_cases (n : Nat) (ss : List Shift) :
    shifted n ss = n ∨ ∃ s ∈ ss, s.run.has n = true ∧ shifted n ss = (n + s.distance).toNat := by
  induction ss with
  | nil => exact .inl rfl
  | cons s ss ih =>
    rw [shifted]
    split_ifs with hlt hhas
    · exact .inl rfl
    · exact .inr ⟨s, by simp, hhas, rfl⟩
    · exact ih.imp_right fun ⟨t, ht, h⟩ => ⟨t, by simp [ht], h⟩

end Runs

/-- Lowercase forms are moved no further, and none of them has a longer form. -/
theorem image_stays : (lowerShift.all fun s => decide (0 ≤ s.run.lo + s.distance) &&
    (s.image.apart ⟨0x130, 0x130, 1⟩ && s.image.stays lowerShift)) = true := by
  decide +kernel

theorem shifted_lowerShift (n : Nat) :
    shifted (shifted n lowerShift) lowerShift = shifted n lowerShift ∧
      (n ≠ 0x130 → shifted n lowerShift ≠ 0x130) := by
  rcases shifted_cases n lowerShift with h | ⟨s, hs, hn, h⟩
  · rw [h, h]
    exact ⟨rfl, id⟩
  · have hstays := List.all_eq_true.1 image_stays s hs
    simp only [Bool.and_eq_true, decide_eq_true_eq] at hstays
    obtain ⟨hpos, hlonger, hstays⟩ := hstays
    have himage := Shift.has_image hpos hn
    rw [h]
    refine ⟨shifted_of_stays hstays himage, fun _ heq => ?_⟩
    rw [heq] at himage
    exact absurd (Run.not_has_of_apart hlonger himage) (by decide)

/-! ## Texts in lower case -/

/-- A character that lower case leaves as it is. -/
def Lowered (c : Char) : Prop := c ≠ 'Σ' ∧ mapCase lowerShift lowerSeveral c = [c]

instance (c : Char) : Decidable (Lowered c) := inferInstanceAs (Decidable (_ ∧ _))

section Lower

variable {c d : Char} {before before' cs ds : List Char}

theorem mapCase_lower_of_ne (h : c.toNat ≠ 0x130) :
    mapCase lowerShift lowerSeveral c = [shiftChar lowerShift c] := by
  simp [mapCase, lowerSeveral, Ne.symm h]

theorem toNat_ofNat_cases (n : Nat) : (Char.ofNat n).toNat = n ∨ Char.ofNat n = Char.ofNat 0 := by
  by_cases h : n.isValidChar
  · refine .inl ?_
    rw [Char.ofNat, dif_pos h]
    rfl
  · exact .inr (dif_neg h)

theorem lowered_shiftChar (h : c.toNat ≠ 0x130) : Lowered (shiftChar lowerShift c) := by
  obtain ⟨hfix, hlonger⟩ := shifted_lowerShift c.toNat
  rw [shiftChar]
  generalize shifted c.toNat lowerShift = n at hfix hlonger
  rcases toNat_ofNat_cases n with hn | hn
  · refine ⟨fun hsigma => ?_, ?_⟩
    · -- A capital sigma would be moved.
      rw [hsigma] at hn
      rw [← hn] at hfix
      exact absurd hfix (by decide +kernel)
    · rw [mapCase_lower_of_ne (by rw [hn]; exact hlonger h), shiftChar, hn, hfix]
  · rw [hn]
    decide +kernel

theorem lowered_of_mem_mapCase (hd : d ∈ mapCase lowerShift lowerSeveral c) : Lowered d := by
  by_cases h : c.toNat = 0x130
  · obtain rfl : c = Char.ofNat 0x130 := by rw [← h, Char.ofNat_toNat]
    have hall : (mapCase lowerShift lowerSeveral (Char.ofNat 0x130)).all (Lowered ·) = true := by
      decide +kernel
    exact of_decide_eq_true (List.all_eq_true.1 hall d hd)
  · rw [mapCase_lower_of_ne h, List.mem_singleton] at hd
    exact hd ▸ lowered_shiftChar h

theorem lowered_of_mem_lowerAfter (hd : d ∈ lowerAfter before cs) : Lowered d := by
  induction cs generalizing before with
  | nil => cases hd
  | cons c cs ih =>
    rw [lowerAfter, List.mem_append] at hd
    rcases hd with hd | hd
    · split_ifs at hd with hsigma hfinal
      · exact List.mem_singleton.1 hd ▸ (by decide +kernel : Lowered 'ς')
      · exact List.mem_singleton.1 hd ▸ (by decide +kernel : Lowered 'σ')
      · exact lowered_of_mem_mapCase hd
    · exact ih hd

theorem lowerAfter_of_lowered (h : ∀ c ∈ cs, Lowered c) : lowerAfter before cs = cs := by
  induction cs generalizing before with
  | nil => rfl
  | cons c cs ih =>
    obtain ⟨hsigma, hc⟩ := h c (by simp)
    rw [lowerAfter, if_neg hsigma, hc, ih fun d hd => h d (by simp [hd])]
    rfl

/-! ## What stands around a text -/

/-- A character that is the same in either case and belongs to no word. -/
structure Neutral (c : Char) : Prop where
  lowered : Lowered c
  counted : memRuns c.toNat caseIgnorable = false
  uncased : memRuns c.toNat casedRuns = false

theorem neutral_of_mem (hc : c ∈ [' ', '\t', '/']) : Neutral c := by
  simp only [List.mem_cons, List.not_mem_nil, or_false] at hc
  rcases hc with rfl | rfl | rfl <;>
    exact ⟨by decide +kernel, by decide +kernel, by decide +kernel⟩

theorem startsCased_cons (c : Char) (cs : List Char) : startsCased (c :: cs) =
    if memRuns c.toNat caseIgnorable then startsCased cs else memRuns c.toNat casedRuns := by
  unfold startsCased
  rw [List.dropWhile_cons]
  split_ifs <;> rfl

theorem startsCased_of_neutral (h : ∀ c ∈ cs, Neutral c) : startsCased cs = false := by
  cases cs with
  | nil => rfl
  | cons c cs =>
    have hc := h c (by simp)
    rw [startsCased_cons, hc.counted, if_neg Bool.false_ne_true, hc.uncased]

theorem startsCased_append (h : ∀ c ∈ ds, Neutral c) (cs : List Char) :
    startsCased (cs ++ ds) = startsCased cs := by
  induction cs with
  | nil => exact startsCased_of_neutral h
  | cons c cs ih => rw [List.cons_append, startsCased_cons, startsCased_cons, ih]

/-- Of what stands before a text, it matters only whether a word goes on. -/
theorem lowerAfter_congr (h : startsCased before = startsCased before') (cs : List Char) :
    lowerAfter before cs = lowerAfter before' cs := by
  induction cs generalizing before before' with
  | nil => rfl
  | cons c cs ih =>
    have hnext : startsCased (c :: before) = startsCased (c :: before') := by
      rw [startsCased_cons, startsCased_cons, h]
    rw [lowerAfter, lowerAfter, h, ih hnext]

theorem lowerAfter_neutral_append (h : ∀ c ∈ ds, Neutral c) (cs : List Char) :
    lowerAfter before (ds ++ cs) = ds ++ lowerAfter (ds.reverse ++ before) cs := by
  induction ds generalizing before with
  | nil => rfl
  | cons d ds ih =>
    obtain ⟨hsigma, hd⟩ := (h d (by simp)).lowered
    rw [List.cons_append, lowerAfter, if_neg hsigma, hd, ih fun c hc => h c (by simp [hc])]
    simp

theorem lowerAfter_append_neutral (h : ∀ c ∈ ds, Neutral c) (cs : List Char) :
    lowerAfter before (cs ++ ds) = lowerAfter before cs ++ ds := by
  induction cs generalizing before with
  | nil => exact lowerAfter_of_lowered fun c hc => (h c hc).lowered
  | cons c cs ih =>
    rw [List.cons_append, lowerAfter, lowerAfter, startsCased_append h, ih, List.append_assoc]

/-- Neutral characters change nothing of a text that they stand around. -/
theorem lowerChars_between (hbefore : ∀ c ∈ before, Neutral c) (hds : ∀ c ∈ ds, Neutral c)
    (cs : List Char) : lowerChars (before ++ (cs ++ ds)) = before ++ (lowerChars cs ++ ds) := by
  have hnone : startsCased (before.reverse ++ []) = startsCased [] := by
    rw [List.append_nil]
    exact startsCased_of_neutral fun c hc => hbefore c (List.mem_reverse.1 hc)
  unfold lowerChars
  rw [lowerAfter_neutral_append hbefore, lowerAfter_congr hnone, lowerAfter_append_neutral hds]

/-! ## ASCII letters in either case -/

theorem toLower_of_not_ascii (h : 128 ≤ c.toNat) : c.toLower = c := by
  refine dif_neg fun ⟨_, hle⟩ => ?_
  rw [UInt32.le_iff_toNat_le] at hle
  change c.toNat ≤ 90 at hle
  omega

theorem toLower_facts (c : Char) :
    mapCase lowerShift lowerSeveral c.toLower = mapCase lowerShift lowerSeveral c ∧
    memRuns c.toLower.toNat caseIgnorable = memRuns c.toNat caseIgnorable ∧
    memRuns c.toLower.toNat casedRuns = memRuns c.toNat casedRuns ∧
    (c.toLower = 'Σ' ↔ c = 'Σ') := by
  rcases Nat.lt_or_ge c.toNat 128 with hc | hc
  · exact ascii_induction (P := fun c =>
      mapCase lowerShift lowerSeveral c.toLower = mapCase lowerShift lowerSeveral c ∧
      memRuns c.toLower.toNat caseIgnorable = memRuns c.toNat caseIgnorable ∧
      memRuns c.toLower.toNat casedRuns = memRuns c.toNat casedRuns ∧
      (c.toLower = 'Σ' ↔ c = 'Σ')) (by decide +kernel) hc
  · rw [toLower_of_not_ascii hc]
    exact ⟨rfl, rfl, rfl, Iff.rfl⟩

theorem startsCased_map_toLower (cs : List Char) :
    startsCased (cs.map Char.toLower) = startsCased cs := by
  induction cs with
  | nil => rfl
  | cons c cs ih =>
    obtain ⟨-, hignorable, hcased, -⟩ := toLower_facts c
    rw [List.map_cons, startsCased_cons, startsCased_cons, ih, hignorable, hcased]

theorem lowerAfter_map_toLower (before cs : List Char) :
    lowerAfter before (cs.map Char.toLower) = lowerAfter before cs := by
  induction cs generalizing before with
  | nil => rfl
  | cons c cs ih =>
    obtain ⟨hmap, hignorable, hcased, hsigma⟩ := toLower_facts c
    have hnext : startsCased (c.toLower :: before) = startsCased (c :: before) := by
      rw [startsCased_cons, startsCased_cons, hignorable, hcased]
    rw [List.map_cons, lowerAfter, lowerAfter, startsCased_map_toLower, hmap,
      lowerAfter_congr hnext, ih, if_congr hsigma rfl rfl]

theorem lowerChars_eq_of_map_toLower (h : cs.map Char.toLower = ds.map Char.toLower) :
    lowerChars cs = lowerChars ds := by
  unfold lowerChars
  rw [← lowerAfter_map_toLower, h, lowerAfter_map_toLower]

end Lower

end Scopelight.Text
