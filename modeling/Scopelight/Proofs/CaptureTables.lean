import Scopelight.Proofs.Checks

/-!
# Tables of captures

The rules for the groups of a match may as well stand in a table by group number, which is made
longer as far as the next key asks. Its lengths are words, and there is no table of arbitrary length.
Compiling a map of captures fills such a table (`captureRules_table`), and the write itself is never
behind its end (`lt_length_of_extend?`). What can fail is that the number of a key asks for a table
that is too long, and only then does the program stop without an answer (`compile_answers`).
-/

namespace Scopelight

open Text

/-- An entry for each group number up to some length. -/
abbrev CaptureTable := List (Option CaptureRule)

theorem fitsCaptures_iff {count : Nat} : fitsCaptures count ↔ count ≤ 115292150460684697 := by
  simp only [fitsCaptures, fitsSignedWord, Bool.and_eq_true, decide_eq_true_eq]
  unfold captureEntryBytes wordLimit
  omega

namespace CaptureTable

/-- Make a table long enough for a group. -/
def extend? (table : CaptureTable) (n : Nat) : Option CaptureTable :=
  if n < table.length then some table
  else if n + 1 < wordLimit ∧ fitsCaptures (n + 1) then
    some (table ++ List.replicate (n + 1 - table.length) none)
  else none

/-- Write the entry of a group, which has to be there. -/
def write? (table : CaptureTable) (n : Nat) (c : CaptureRule) : Option CaptureTable :=
  if n < table.length then some (table.set n (some c)) else none

/-- Put a rule in place in a table that is made long enough. -/
def put? (table : CaptureTable) (n : Nat) (c : CaptureRule) : Option CaptureTable :=
  (table.extend? n).bind (·.write? n c)

variable {table longer : CaptureTable} {n : Nat}

theorem lt_length_of_extend? (h : table.extend? n = some longer) : n < longer.length := by
  unfold extend? at h
  split_ifs at h with hlt hroom
  · rwa [← Option.some.inj h]
  · rw [← Option.some.inj h, List.length_append, List.length_replicate]
    omega

theorem put?_eq (table : CaptureTable) (n : Nat) (c : CaptureRule) :
    table.put? n c = (table.extend? n).map (·.set n (some c)) := by
  unfold put?
  rcases h : table.extend? n with _ | longer
  · rfl
  · exact if_pos (lt_length_of_extend? h)

theorem extend?_of_fits (h : fitsCaptures table.length) :
    table.extend? n = if fitsCaptures (n + 1) then
      some (table ++ List.replicate (n + 1 - table.length) none) else none := by
  unfold extend?
  rw [fitsCaptures_iff] at h
  split_ifs with hlt hfits hroom hfits hfits
  · rw [Nat.sub_eq_zero_of_le hlt, List.replicate_zero, List.append_nil]
  · exact absurd (fitsCaptures_iff.2 (Nat.le_trans hlt h)) hfits
  · rfl
  · exact absurd hroom.2 hfits
  · exact absurd ⟨by rw [fitsCaptures_iff] at hfits; unfold wordLimit; omega, hfits⟩ hroom
  · rfl

end CaptureTable

namespace CaptureRules

/-- How long a table of these rules is. -/
def extent : CaptureRules → Nat
  | [] => 0
  | (n, _) :: rest => max (n + 1) (extent rest)

/-- The rules as a table. -/
def table (cs : CaptureRules) : CaptureTable := (List.range cs.extent).map (cs.lookup ·)

theorem length_table (cs : CaptureRules) : cs.table.length = cs.extent := by
  rw [table, List.length_map, List.length_range]

theorem lookup_cons (i n : Nat) (c : CaptureRule) (cs : CaptureRules) :
    List.lookup i ((n, c) :: cs) = if i = n then some c else cs.lookup i := by
  rw [List.lookup_cons]
  split_ifs with h
  · rw [h, beq_self_eq_true]
  · rw [beq_false_of_ne h]

theorem lookup_of_extent_le : ∀ {cs : CaptureRules} {i : Nat}, cs.extent ≤ i → cs.lookup i = none
  | [], _, _ => rfl
  | (n, c) :: rest, i, h => by
    have hmax := Nat.max_le.1 h
    rw [lookup_cons, if_neg (by omega)]
    exact lookup_of_extent_le hmax.2

theorem getElem?_table (cs : CaptureRules) (i : Nat) :
    cs.table[i]? = if i < cs.extent then some (cs.lookup i) else none := by
  rw [table, List.getElem?_map]
  split_ifs with h
  · rw [List.getElem?_range h, Option.map_some]
  · rw [List.getElem?_eq_none (by rw [List.length_range]; omega), Option.map_none]

variable (n : Nat) (c : CaptureRule)

theorem extent_set : ∀ cs : CaptureRules, (cs.set n c).extent = max (n + 1) cs.extent
  | [] => rfl
  | (m, d) :: rest => by
    unfold CaptureRules.set
    split_ifs with hlt heq
    · rfl
    · rw [extent, extent, heq, ← Nat.max_assoc, Nat.max_self]
    · rw [extent, extent, extent_set rest, Nat.max_left_comm]

theorem lookup_set (i : Nat) : ∀ cs : CaptureRules,
    (cs.set n c).lookup i = if i = n then some c else cs.lookup i
  | [] => lookup_cons i n c []
  | (m, d) :: rest => by
    rw [lookup_cons, CaptureRules.set]
    rcases Nat.lt_trichotomy n m with hlt | rfl | hgt
    · rw [if_pos hlt, lookup_cons, lookup_cons]
    · rw [if_neg (Nat.lt_irrefl n), if_pos rfl, lookup_cons]
      split_ifs <;> rfl
    · rw [if_neg (Nat.lt_asymm hgt), if_neg (Nat.ne_of_gt hgt), lookup_cons, lookup_set i rest]
      split_ifs with hm hn
      · omega
      all_goals rfl

/-- A rule is put in place in the table of the rules, at the end of it or inside. -/
theorem table_set (cs : CaptureRules) : (cs.set n c).table =
    (cs.table ++ List.replicate (n + 1 - cs.extent) none).set n (some c) := by
  refine List.ext_getElem? fun i => ?_
  rw [getElem?_table, extent_set, lookup_set, List.getElem?_set, List.length_append,
    List.length_replicate, length_table, List.getElem?_append, length_table, getElem?_table,
    List.getElem?_replicate]
  by_cases hi : n = i
  · rw [if_pos hi, if_pos hi.symm, if_pos (by omega), if_pos (by omega)]
  rw [if_neg hi, if_neg (Ne.symm hi)]
  by_cases hin : i < cs.extent
  · rw [if_pos hin, if_pos hin, if_pos (by omega)]
  rw [if_neg hin, lookup_of_extent_le (Nat.not_lt.1 hin)]
  -- Behind the old end the entries up to that of `n` are empty, and there are no more.
  by_cases hbelow : i < n + 1
  · rw [if_pos (by omega), if_pos (by omega)]
  · rw [if_neg (by omega), if_neg (by omega)]

theorem fits_set {cs : CaptureRules} (hroom : fitsCaptures (n + 1)) (h : fitsCaptures cs.extent) :
    fitsCaptures (cs.set n c).extent := by
  rw [fitsCaptures_iff] at hroom h ⊢
  rw [extent_set]
  exact Nat.max_le.2 ⟨hroom, h⟩

theorem put?_table {cs : CaptureRules} (h : fitsCaptures cs.extent) :
    cs.table.put? n c = if fitsCaptures (n + 1) then some (cs.set n c).table else none := by
  rw [CaptureTable.put?_eq, CaptureTable.extend?_of_fits (by rwa [length_table]), length_table,
    table_set]
  split_ifs <;> rfl

end CaptureRules

namespace Build

/-- Compile the rules of captures into a table. -/
def tableRules (scope : String) (repository : RepositoryId) (path : String) :
    CaptureTable → List (String × RuleSpec) → Build CaptureTable
  | table, [] => pure table
  | table, (key, spec) :: rest =>
    match captureNumber? key with
    | none => malformed scope path (.captureKey key)
    | some n => do
      let patterns ← capturePatterns scope repository (childPath path key) spec.patterns
      match table.put? n ⟨spec.name.map ScopeName.mk, spec.contentName.map ScopeName.mk, patterns⟩ with
      | some table => tableRules scope repository path table rest
      | none => throw (.overflow key)

/-- The rules of a map of captures are those of the table. -/
theorem captureRules_table (scope : String) (repository : RepositoryId) (path : String)
    (ms : List (String × RuleSpec)) : ∀ (done : CaptureRules), fitsCaptures done.extent →
      CaptureRules.table <$> captureRules scope repository path done ms =
        tableRules scope repository path done.table ms := by
  induction ms with
  | nil =>
    intro done _
    rw [Build.captureRules, tableRules, map_pure]
  | cons m rest ih =>
    intro done hdone
    obtain ⟨key, ⟨reference, name, contentName, matchPattern, captures, beginPattern, beginCaptures,
      endPattern, endCaptures, whilePattern, whileCaptures, patterns, ownRepository,
      applyEndLast⟩⟩ := m
    rw [Build.captureRules, tableRules, capture, map_bind]
    rcases captureNumber? key with _ | n
    · rfl
    · dsimp only
      rw [bind_assoc]
      refine bind_congr fun patterns => ?_
      rw [CaptureRules.put?_table _ _ hdone]
      split
      · rename_i hroom
        rw [pure_bind]
        exact ih _ (CaptureRules.fits_set _ _ hroom hdone)
      · rfl

end Build

theorem Check.error?_eq_overflow {scope key : String} {check : Check} :
    check.error? scope = some (.overflow key) ↔
      check = .room key ∧ ∃ n, captureNumber? key = some n ∧ ¬ fitsCaptures (n + 1) := by
  constructor
  · intro h
    cases check with
    | room key' =>
      rw [error?] at h
      split at h
      · rename_i n hn
        split_ifs at h with hroom
        obtain rfl : key' = key := by injection h with h; injection h
        exact ⟨rfl, n, hn, hroom⟩
      · cases h
    | scopeName =>
      rw [error?] at h
      split_ifs at h
      cases h
    | flaw path kind => cases h
    | _ =>
      rw [error?] at h
      split at h <;> cases h
  · rintro ⟨rfl, n, hn, hroom⟩
    rw [error?, hn]
    exact if_neg hroom

/-- The descriptor passes all checks before the one for a table that is long enough for the key, and
the number of the key is too large for that. -/
def Descriptor.StopsAt (d : Descriptor) (key : String) : Prop :=
  ∃ n before after, d.checks = before ++ .room key :: after ∧
    (∀ check ∈ before, check.error? d.scope = none) ∧
    captureNumber? key = some n ∧ ¬ fitsCaptures (n + 1)

namespace Grammar

theorem compile_overflow_iff {d : Descriptor} {key : String} :
    compile d = .error (.overflow key) ↔ d.StopsAt key := by
  rw [compile_error_iff, Check.first?, List.findSome?_eq_some_iff]
  constructor
  · rintro ⟨before, check, after, hchecks, hcheck, hbefore⟩
    obtain ⟨rfl, n, hn, hroom⟩ := Check.error?_eq_overflow.1 hcheck
    exact ⟨n, before, after, hchecks, hbefore, hn, hroom⟩
  · rintro ⟨n, before, after, hchecks, hbefore, hn, hroom⟩
    exact ⟨before, .room key, after, hchecks, Check.error?_eq_overflow.2 ⟨rfl, n, hn, hroom⟩,
      hbefore⟩

/-- Compiling gives a grammar or an error of the descriptor, unless the first check that fails is
that for the length of a table. In machine words a rule is put in place whenever there is a table
that long, and a map of captures has the rules of the table that is filled in this way. -/
theorem compile_answers (d : Descriptor) :
    (((∃ g, compile d = .ok g) ∨ ∃ e, compile d = .error e ∧ ∀ key, e ≠ .overflow key) ↔
      ∀ key, ¬ d.StopsAt key) ∧
    (∀ (cs : CaptureRules) (n : Nat) (c : CaptureRule), fitsCaptures cs.extent →
      cs.table.put? n c = if fitsCaptures (n + 1) then some (cs.set n c).table else none) ∧
    ∀ repository path ms, CaptureRules.table <$> Build.captureRules d.scope repository path [] ms =
      Build.tableRules d.scope repository path [] ms := by
  refine ⟨⟨fun hanswer key hstop => ?_, fun hstops => ?_⟩, fun cs n c => CaptureRules.put?_table n c,
    fun repository path ms => Build.captureRules_table _ _ _ ms [] rfl⟩
  · rw [← compile_overflow_iff] at hstop
    rcases hanswer with ⟨g, hg⟩ | ⟨e, he, hne⟩
    · rw [hg] at hstop
      cases hstop
    · rw [he] at hstop
      exact hne key (Except.error.inj hstop)
  · rcases hc : compile d with e | g
    · refine .inr ⟨e, rfl, fun key hkey => hstops key ?_⟩
      rw [← compile_overflow_iff, hc, hkey]
    · exact .inl ⟨g, rfl⟩

/-- A rule with a capture of this key. -/
def oneCapture (key : String) : Descriptor :=
  { Descriptor.empty with
    scopeName := "source.t"
    patterns := [{ RuleSpec.empty with
      matchPattern := some "a"
      captures := some [(key, { RuleSpec.empty with name := some "x" })] }] }

/-- A table is filled as far as the key asks, and there is none that is too long. -/
theorem short_table_filled :
    (∃ g, compile (oneCapture "2") = .ok g) ∧
    (∀ key, ¬ (oneCapture "2").StopsAt key) ∧
    fitsCaptures (CaptureRules.extent []) ∧
    (CaptureRules.table []).put? 2 ⟨none, none, none⟩ =
      some [none, none, some ⟨none, none, none⟩] ∧
    (CaptureRules.table []).put? 115292150460684697 ⟨none, none, none⟩ = none := by
  obtain ⟨g, hg, -⟩ := exists_ok_of_any (x := compile (oneCapture "2"))
    (p := fun _ => true) (by decide +kernel)
  obtain ⟨hanswers, hput, -⟩ := compile_answers (oneCapture "2")
  have hempty : fitsCaptures (CaptureRules.extent []) := by decide
  refine ⟨⟨g, hg⟩, hanswers.1 (.inl ⟨g, hg⟩), hempty, ?_, ?_⟩
  · rw [hput [] _ _ hempty, if_pos (by decide)]
    rfl
  · rw [hput [] _ _ hempty, if_neg (by decide)]

/-- The key is a group number, and one more than it is no word. -/
theorem largest_capture_stops :
    captureNumber? "18446744073709551615" = some 18446744073709551615 ∧
    ¬ 18446744073709551615 + 1 < wordLimit ∧
    (∀ table : CaptureTable, table.length < wordLimit →
      table.extend? 18446744073709551615 = none) ∧
    compile (oneCapture "18446744073709551615") = .error (.overflow "18446744073709551615") := by
  refine ⟨by decide, by decide, fun table h => ?_, map_error_iff (f := fun _ => ()).1
    (by decide +kernel)⟩
  unfold CaptureTable.extend? wordLimit at *
  rw [if_neg (by omega), if_neg (by omega)]

end Grammar

end Scopelight
