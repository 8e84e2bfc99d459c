import Scopelight.Proofs.Registration

/-!
# What a registry holds

Adding a grammar gives a new scope the next place and keeps the places of all others, as does a table
of places to which each scope is added once (`placesOf`). What a registry holds after
grammars were added is kept by one more (`Holds.add`), and so by any (`Holds.adds`). A call adds the
grammars of all its descriptors, or fails with the fault of the first one that cannot be compiled
(`register_eq_error_iff`). So after any calls each scope that was registered has the latest grammar at
a place of its own, and the places are the first numbers (`snapshot_after_calls`).
-/

namespace Scopelight

/-- All of these grammars can be compiled. -/
def Compiles (ds : List Descriptor) : Bool := ds.all fun d => (Grammar.compile d).isOk

/-- The fault is that of the first grammar that cannot be compiled. -/
def FirstFault (ds : List Descriptor) (e : GrammarError) : Prop :=
  ∃ before d after, ds = before ++ d :: after ∧ Compiles before = true ∧
    Grammar.compile d = .error e

namespace Snapshot

/-- The snapshot after some calls; one that fails leaves it as it is. -/
def afterCalls (s : Snapshot) (calls : List (List Descriptor)) : Snapshot :=
  calls.foldl (fun s ds =>
    match s.register ds with
    | .ok s' => s'
    | .error _ => s) s

/-- All keys by which grammars are found. -/
def flags (s : Snapshot) : FlagIndex := s.names ++ s.extensions ++ s.dottedExtensions

theorem flags_add (s : Snapshot) (g : Grammar) : (s.add g).flags =
    s.names.insertAll g.names (s.placeOf g.scope) ++
      s.extensions.insertAll g.extensions (s.placeOf g.scope) ++
      s.dottedExtensions.insertAll g.dottedExtensions (s.placeOf g.scope) := by
  unfold flags add placeOf
  rcases s.byScope.lookup g.scope with _ | place <;> rfl

end Snapshot

namespace Registry

/-- The registry after some calls; one that fails leaves it as it is. -/
def afterCalls (r : Registry) (calls : List (List Descriptor)) : Registry :=
  calls.foldl (fun r ds =>
    match r.register ds with
    | .ok r' => r'
    | .error _ => r) r

/-- The descriptors of the calls that succeed, in order. -/
def registered (calls : List (List Descriptor)) : List Descriptor := (calls.filter Compiles).flatten

/-- A table of places as scopes come: one that has no place gets the next. -/
def placesOf (scopes : List String) : List (String × Nat) :=
  scopes.foldl (fun table s =>
    if (table.lookup s).isSome then table else (s, table.length) :: table) []

/-! ## A call -/

section Call

variable {r r' : Registry} {d : Descriptor} {xs ys ds : List Descriptor} {g : Grammar}

theorem compiles_cons (d : Descriptor) (ds : List Descriptor) :
    Compiles (d :: ds) = ((Grammar.compile d).isOk && Compiles ds) := rfl

theorem Adds.compiles (h : r.Adds ds r') : Compiles ds = true := by
  induction h with
  | nil => rfl
  | cons hg _ ih => rw [compiles_cons, hg, ih]; rfl

theorem exists_adds (h : Compiles ds = true) (r : Registry) : ∃ r', r.Adds ds r' := by
  induction ds generalizing r with
  | nil => exact ⟨r, .nil r⟩
  | cons d ds ih =>
    rw [compiles_cons, Bool.and_eq_true] at h
    rcases hd : Grammar.compile d with e | g
    · rw [hd] at h
      cases h.1
    · obtain ⟨r', hr'⟩ := ih h.2 (r.add g)
      exact ⟨r', .cons hd hr'⟩

theorem Adds.append {s : Registry} (h : r.Adds xs s) (h' : s.Adds ys r') :
    r.Adds (xs ++ ys) r' := by
  induction h with
  | nil => exact h'
  | cons hg _ ih => exact .cons hg (ih h')

theorem add_version (r : Registry) (g : Grammar) (version : UInt64) :
    { r with version }.add g = { r.add g with version } := rfl

theorem Adds.version (h : r.Adds ds r') (version : UInt64) :
    { r with version }.Adds ds { r' with version } := by
  induction h with
  | nil => exact .nil _
  | cons hg _ ih => exact .cons hg (by rwa [add_version])

theorem firstFault_cons_of_error {e e' : GrammarError} (hd : Grammar.compile d = .error e') :
    FirstFault (d :: ds) e ↔ e' = e := by
  constructor
  · rintro ⟨_ | ⟨b, before⟩, d', after, hds, hbefore, hd'⟩
    · obtain ⟨rfl, rfl⟩ := List.cons.inj hds
      exact Except.error.inj (hd.symm.trans hd')
    · obtain ⟨rfl, rfl⟩ := List.cons.inj hds
      rw [compiles_cons, hd] at hbefore
      cases hbefore
  · rintro rfl
    exact ⟨[], d, ds, rfl, rfl, hd⟩

theorem firstFault_cons_of_ok {e : GrammarError} (hd : Grammar.compile d = .ok g) :
    FirstFault (d :: ds) e ↔ FirstFault ds e := by
  constructor
  · rintro ⟨_ | ⟨b, before⟩, d', after, hds, hbefore, hd'⟩
    · obtain ⟨rfl, rfl⟩ := List.cons.inj hds
      rw [hd] at hd'
      cases hd'
    · obtain ⟨rfl, rfl⟩ := List.cons.inj hds
      rw [compiles_cons, Bool.and_eq_true] at hbefore
      exact ⟨before, d', after, rfl, hbefore.2, hd'⟩
  · rintro ⟨before, d', after, rfl, hbefore, hd'⟩
    exact ⟨d :: before, d', after, rfl, by rw [compiles_cons, hd, hbefore]; rfl, hd'⟩

theorem foldlM_add_eq_error_iff {e : GrammarError} :
    ds.foldlM (fun r d => return r.add (← Grammar.compile d)) r = Except.error e ↔
      FirstFault ds e := by
  induction ds generalizing r with
  | nil => simp [FirstFault, pure, Except.pure]
  | cons d ds ih =>
    rw [List.foldlM_cons]
    rcases hd : Grammar.compile d with e' | g
    · rw [firstFault_cons_of_error hd]
      exact ⟨Except.error.inj, congrArg Except.error⟩
    · rw [firstFault_cons_of_ok hd]
      exact ih (r := r.add g)

theorem register_eq_error_iff {e : GrammarError} :
    r.register ds = .error e ↔ FirstFault ds e := by
  rw [register_eq, map_error_iff, foldlM_add_eq_error_iff]

end Call

/-! ## A grammar more -/

section Add

variable {r r' : Registry} {d : Descriptor} {ds : List Descriptor} {g : Grammar} {scope : String}
  {id : Nat}

theorem placeOf_lt_add (r : Registry) (g : Grammar) :
    r.placeOf g.scope < (r.add g).grammars.size := by
  have hid : (r.add g).idOf? g.scope = some (r.placeOf g.scope) := by rw [idOf_add, if_pos rfl]
  exact lt_of_idOf hid

theorem mem_insertAll {index : FlagIndex} {keys : List String} {entry : String × Nat}
    (h : entry ∈ index.insertAll keys id) : entry ∈ index ∨ entry.2 = id := by
  induction keys generalizing index with
  | nil => exact .inl h
  | cons key keys ih =>
    rcases ih h with h | h
    · rcases List.mem_cons.1 h with rfl | h
      · exact .inr rfl
      · exact .inl h
    · exact .inr h

theorem flags_add (r : Registry) (g : Grammar) : (r.add g).flags =
    r.names.insertAll g.names (r.placeOf g.scope) ++
      r.extensions.insertAll g.extensions (r.placeOf g.scope) ++
      r.dottedExtensions.insertAll g.dottedExtensions (r.placeOf g.scope) :=
  r.toSnapshot.flags_add g

theorem mem_flags_add {entry : String × Nat} (h : entry ∈ (r.add g).flags) :
    entry ∈ r.flags ∨ entry.2 = r.placeOf g.scope := by
  rw [flags_add, List.mem_append, List.mem_append] at h
  unfold Snapshot.flags
  rw [List.mem_append, List.mem_append]
  rcases h with (h | h) | h
  · exact (mem_insertAll h).imp_left fun h => .inl (.inl h)
  · exact (mem_insertAll h).imp_left fun h => .inl (.inr h)
  · exact (mem_insertAll h).imp_left .inr

/-! ## Places -/

theorem placesOf_concat (scopes : List String) (s : String) :
    placesOf (scopes ++ [s]) =
      if ((placesOf scopes).lookup s).isSome then placesOf scopes
      else (s, (placesOf scopes).length) :: placesOf scopes := by
  unfold placesOf
  rw [List.foldl_append]
  rfl

theorem isSome_lookup_placesOf (scopes : List String) (s : String) :
    ((placesOf scopes).lookup s).isSome = true ↔ s ∈ scopes := by
  induction scopes using List.reverseRecOn with
  | nil => exact ⟨nofun, nofun⟩
  | append_singleton scopes t ih =>
    rw [placesOf_concat, List.mem_append, List.mem_singleton, ← ih]
    by_cases hs : s = t
    · subst hs
      split_ifs with h
      · exact iff_of_true h (.inl h)
      · simp
    · have hne : (s == t) = false := beq_eq_false_iff_ne.2 hs
      split_ifs <;> simp [hs, List.lookup_cons, hne]

end Add

/-! ## What descriptors leave -/

/-- The grammar comes from the last of the descriptors of its scope. -/
def LatestOf (ds : List Descriptor) (g : Grammar) : Prop :=
  ∃ before d after, ds = before ++ d :: after ∧ Grammar.compile d = .ok g ∧
    ∀ d' ∈ after, d'.scope ≠ g.scope

/-- The registry holds what these descriptors leave when they are added in order. -/
structure Holds (r : Registry) (ds : List Descriptor) : Prop where
  /-- Scopes are where a table of places has them. -/
  idOf (scope : String) : r.idOf? scope = (placesOf (ds.map Descriptor.scope)).lookup scope
  size : r.grammars.size = (placesOf (ds.map Descriptor.scope)).length
  latest {id : Nat} {g : Grammar} : r.grammar? id = some g → LatestOf ds g
  flags : ∀ entry ∈ r.flags, entry.2 < r.grammars.size

section Holds

variable {r r' : Registry} {d : Descriptor} {ds xs ys : List Descriptor} {g : Grammar}
  {scope : String} {id : Nat}

theorem holds_withConfig (config : Config) : Holds (withConfig config) [] where
  idOf _ := rfl
  size := rfl
  latest h := by simp [withConfig, Snapshot.withConfig, grammar?] at h
  flags := nofun

theorem LatestOf.concat (h : LatestOf ds g) (hne : d.scope ≠ g.scope) :
    LatestOf (ds ++ [d]) g := by
  obtain ⟨before, e, after, rfl, he, hafter⟩ := h
  refine ⟨before, e, after ++ [d], by simp, he, fun d' hd' => ?_⟩
  rcases List.mem_append.1 hd' with hd' | hd'
  · exact hafter d' hd'
  · rwa [List.mem_singleton.1 hd']

theorem Holds.placeOf_eq (h : r.Holds ds) (scope : String) :
    r.placeOf scope = ((placesOf (ds.map Descriptor.scope)).lookup scope).getD
      (placesOf (ds.map Descriptor.scope)).length := by
  rw [← h.idOf, ← h.size]
  rfl

theorem Holds.add (h : r.Holds ds) (hd : Grammar.compile d = .ok g) :
    (r.add g).Holds (ds ++ [d]) where
  idOf scope := by
    rw [idOf_add, h.placeOf_eq, List.map_append, List.map_singleton, placesOf_concat,
      Grammar.scope_of_compile hd, h.idOf]
    split_ifs with hs hknown hknown
    · obtain ⟨place, hplace⟩ := Option.isSome_iff_exists.1 hknown
      rw [hs, hplace, Option.getD_some]
    · rw [hs, List.lookup_cons, beq_self_eq_true, Option.not_isSome_iff_eq_none.1 hknown]
      rfl
    · rfl
    · rw [List.lookup_cons, beq_eq_false_iff_ne.2 hs]
  size := by
    rw [size_add, h.idOf, h.size, List.map_append, List.map_singleton, placesOf_concat,
      Grammar.scope_of_compile hd]
    split_ifs <;> rfl
  latest {id g'} hg' := by
    rw [grammar_add] at hg'
    split_ifs at hg' with hid
    · obtain rfl := Option.some.inj hg'
      exact ⟨ds, d, [], rfl, hd, List.forall_mem_nil _⟩
    · refine (h.latest hg').concat fun hs => hid ?_
      rw [← Grammar.scope_of_compile hd] at hs
      rw [hs]
      exact (placeOf_of_grammar hg').symm
  flags entry hentry := by
    rcases mem_flags_add hentry with hold | hnew
    · exact (h.flags entry hold).trans_le (size_le_add r g)
    · exact hnew ▸ placeOf_lt_add r g

theorem Holds.adds (h : r.Holds xs) (ha : r.Adds ys r') : r'.Holds (xs ++ ys) := by
  induction ha generalizing xs with
  | nil => rwa [List.append_nil]
  | cons hd _ ih =>
    rw [List.append_cons]
    exact ih (h.add hd)

theorem Holds.version (h : r.Holds ds) (version : UInt64) : { r with version }.Holds ds :=
  ⟨h.idOf, h.size, h.latest, h.flags⟩

theorem Holds.isSome_iff (h : r.Holds ds) :
    (r.idOf? scope).isSome ↔ scope ∈ ds.map Descriptor.scope := by
  rw [h.idOf, isSome_lookup_placesOf]

theorem lt_size_iff : id < r.grammars.size ↔ ∃ scope, r.idOf? scope = some id := by
  refine ⟨fun hid => ?_, fun ⟨_, hs⟩ => lt_of_idOf hs⟩
  exact ⟨_, idOf_of_grammar (Array.getElem?_eq_getElem hid)⟩

theorem Holds.exists_grammar (h : r.Holds ds) (hid : r.idOf? scope = some id) :
    ∃ g, r.grammar? id = some g ∧ g.scope = scope ∧ LatestOf ds g := by
  obtain ⟨g, hg, hscope⟩ := grammar_of_idOf hid
  exact ⟨g, hg, hscope, h.latest hg⟩

theorem idOf_injective {scope' : String} (h : r.idOf? scope = some id)
    (h' : r.idOf? scope' = some id) : scope = scope' := by
  obtain ⟨g, hg, rfl⟩ := grammar_of_idOf h
  obtain ⟨g', hg', rfl⟩ := grammar_of_idOf h'
  rw [Option.some.inj (hg.symm.trans hg')]

theorem idOf_add_of_some (h : r.idOf? scope = some id) (g : Grammar) :
    (r.add g).idOf? scope = some id := by
  rw [idOf_add]
  split_ifs with hs
  · rw [← hs, placeOf_of_idOf h]
  · exact h

theorem Adds.idOf (ha : r.Adds ds r') (h : r.idOf? scope = some id) :
    r'.idOf? scope = some id :=
  ha.keeps (P := fun r => r.idOf? scope = some id) h fun _ _ g h _ => idOf_add_of_some h g

end Holds

/-! ## Calls -/

section Calls

variable {r r' : Registry} {ds xs ys : List Descriptor} {calls : List (List Descriptor)}

theorem register_isOk (r : Registry) (ds : List Descriptor) :
    (r.register ds).isOk = Compiles ds := by
  rcases hr : r.register ds with e | r'
  · obtain ⟨before, d, after, rfl, -, hd⟩ := register_eq_error_iff.1 hr
    simp [Compiles, hd, Except.isOk, Except.toBool]
  · obtain ⟨s, hs, -⟩ := register_eq_ok_iff.1 hr
    rw [hs.compiles]
    rfl

theorem afterCalls_of_ok (h : r.register ds = .ok r') : r.afterCalls [ds] = r' := by
  simp only [afterCalls, List.foldl_cons, List.foldl_nil, h]

theorem afterCalls_of_not (h : Compiles ds = false) : r.afterCalls [ds] = r := by
  rcases hr : r.register ds with e | r'
  · simp only [afterCalls, List.foldl_cons, List.foldl_nil, hr]
  · rw [← register_isOk r, hr] at h
    cases h

theorem afterCalls_append (r : Registry) (xs ys : List (List Descriptor)) :
    r.afterCalls (xs ++ ys) = (r.afterCalls xs).afterCalls ys := List.foldl_append

/-- Calls add the descriptors of those that succeed, and count them. -/
theorem afterCalls_eq (r : Registry) (calls : List (List Descriptor)) :
    ∃ s, r.Adds (registered calls) s ∧
      r.afterCalls calls =
        { s with version := r.version + UInt64.ofNat (calls.filter Compiles).length } := by
  induction calls generalizing r with
  | nil =>
    refine ⟨r, .nil r, ?_⟩
    have hzero : r.version + UInt64.ofNat 0 = r.version := UInt64.add_zero _
    rw [List.filter_nil, List.length_nil, hzero]
    rfl
  | cons ds calls ih =>
    rw [← List.singleton_append, afterCalls_append, registered, List.filter_append,
      List.flatten_append]
    rcases hok : Compiles ds with _ | _
    · rw [afterCalls_of_not hok, List.filter_singleton, hok]
      exact ih r
    · obtain ⟨s, hs⟩ := exists_adds hok r
      rw [afterCalls_of_ok (register_eq_ok_iff.2 ⟨s, hs, rfl⟩), List.filter_singleton, hok]
      -- The versions differ between the calls, which what is added does not depend on.
      obtain ⟨s', hs', heq⟩ := ih { s with version := r.version + 1 }
      refine ⟨{ s' with version := s.version }, ?_, ?_⟩
      · rw [cond_true, List.flatten_singleton]
        exact hs.append (hs'.version s.version)
      · rw [heq, cond_true, List.length_append, List.length_singleton, UInt64.ofNat_add,
          ← UInt64.add_assoc]
        rfl

theorem toSnapshot_afterCalls (r : Registry) (calls : List (List Descriptor)) :
    (r.afterCalls calls).toSnapshot = r.toSnapshot.afterCalls calls := by
  induction calls generalizing r with
  | nil => rfl
  | cons ds calls ih =>
    have hregister := r.toSnapshot_register ds
    rw [afterCalls, Snapshot.afterCalls, List.foldl_cons, List.foldl_cons, hregister]
    rcases r.register ds with e | r'
    · exact ih r
    · exact ih r'

theorem version_afterCalls (config : Config) (calls : List (List Descriptor)) :
    ((withConfig config).afterCalls calls).version =
      UInt64.ofNat (calls.filter Compiles).length := by
  obtain ⟨s, -, heq⟩ := afterCalls_eq (withConfig config) calls
  rw [heq]
  exact UInt64.zero_add _

theorem holds_afterCalls (config : Config) (calls : List (List Descriptor)) :
    ((withConfig config).afterCalls calls).Holds (registered calls) := by
  obtain ⟨s, hs, heq⟩ := afterCalls_eq (withConfig config) calls
  rw [heq]
  exact ((holds_withConfig config).adds hs).version _

theorem idOf_afterCalls {scope : String} {id : Nat} (h : r.idOf? scope = some id)
    (calls : List (List Descriptor)) : (r.afterCalls calls).idOf? scope = some id := by
  obtain ⟨s, hs, heq⟩ := afterCalls_eq r calls
  rw [heq]
  exact hs.idOf h

/-- Registering in two calls leaves what one call leaves, the version apart. -/
theorem register_append (r : Registry) (h : Compiles (xs ++ ys) = true) :
    ∃ whole first second, r.register (xs ++ ys) = .ok whole ∧ r.register xs = .ok first ∧
      first.register ys = .ok second ∧ second = { whole with version := whole.version + 1 } := by
  rw [Compiles, List.all_append, Bool.and_eq_true] at h
  obtain ⟨first, hfirst⟩ := exists_adds h.1 r
  obtain ⟨second, hsecond⟩ := exists_adds h.2 first
  exact ⟨_, _, _, register_eq_ok_iff.2 ⟨_, hfirst.append hsecond, rfl⟩,
    register_eq_ok_iff.2 ⟨_, hfirst, rfl⟩,
    register_eq_ok_iff.2 ⟨_, hsecond.version (r.version + 1), rfl⟩, rfl⟩

theorem isOk_toSnapshot_register (r : Registry) (ds : List Descriptor) :
    (r.toSnapshot.register ds).isOk = Compiles ds := by
  rw [toSnapshot_register, ← register_isOk r]
  rcases r.register ds with e | r' <;> rfl

theorem toSnapshot_register_eq_error_iff {e : GrammarError} :
    r.toSnapshot.register ds = .error e ↔ FirstFault ds e := by
  rw [toSnapshot_register, map_error_iff, register_eq_error_iff]

theorem toSnapshot_register_append (r : Registry) (h : Compiles (xs ++ ys) = true) :
    ∃ whole first second, r.toSnapshot.register (xs ++ ys) = .ok whole ∧
      r.toSnapshot.register xs = .ok first ∧ first.register ys = .ok second ∧
        second = { whole with version := whole.version + 1 } := by
  obtain ⟨whole, first, second, hwhole, hfirst, hsecond, rfl⟩ := r.register_append h
  refine ⟨whole.toSnapshot, first.toSnapshot, _, ?_, ?_, ?_, rfl⟩
  · rw [toSnapshot_register, hwhole]
    rfl
  · rw [toSnapshot_register, hfirst]
    rfl
  · rw [toSnapshot_register, hsecond]
    rfl

/-- After any calls the table leads from the scopes of the successful ones, and from no others, to the
first numbers, from each scope to one of its own and for ever, in the order in which the scopes came;
at each place is the latest grammar of its scope, and no key leads elsewhere. The version counts the
successful calls as far as a word counts, which is up to `2 ^ 64` of them. A call fails with the fault
of its first descriptor that cannot be compiled and then changes nothing, and two successful calls do
what one does. -/
theorem snapshot_after_calls (config : Config) (calls : List (List Descriptor)) :
    let s := (Snapshot.withConfig config).afterCalls calls
    ((withConfig config).afterCalls calls).toSnapshot = s ∧
    (s.byScope.map Prod.fst).Nodup ∧
    (∀ scope, (s.byScope.lookup scope).isSome ↔
      scope ∈ (registered calls).map Descriptor.scope) ∧
    (∀ id, id < s.grammars.size ↔ ∃ scope, s.byScope.lookup scope = some id) ∧
    (∀ scope scope' id, s.byScope.lookup scope = some id → s.byScope.lookup scope' = some id →
      scope = scope') ∧
    (∀ scope, s.byScope.lookup scope =
      (placesOf ((registered calls).map Descriptor.scope)).lookup scope) ∧
    (∀ scope id, s.byScope.lookup scope = some id →
      ∃ g, s.grammars[id]? = some g ∧ g.scope = scope ∧ LatestOf (registered calls) g) ∧
    (∀ later scope id, s.byScope.lookup scope = some id →
      ((Snapshot.withConfig config).afterCalls (calls ++ later)).byScope.lookup scope = some id) ∧
    (∀ entry ∈ s.names ++ s.extensions ++ s.dottedExtensions, entry.2 < s.grammars.size) ∧
    s.version = UInt64.ofNat (calls.filter Compiles).length ∧
    ((calls.filter Compiles).length < UInt64.size →
      s.version.toNat = (calls.filter Compiles).length) ∧
    (∀ ds, (s.register ds).isOk = Compiles ds) ∧
    (∀ ds e, s.register ds = .error e ↔ FirstFault ds e) ∧
    (∀ ds, Compiles ds = false → (Snapshot.withConfig config).afterCalls (calls ++ [ds]) = s) ∧
    ∀ xs ys, Compiles (xs ++ ys) = true → ∃ whole first second,
      s.register (xs ++ ys) = .ok whole ∧ s.register xs = .ok first ∧
        first.register ys = .ok second ∧ second = { whole with version := whole.version + 1 } := by
  intro s
  have hs (calls : List (List Descriptor)) : (Snapshot.withConfig config).afterCalls calls =
      ((withConfig config).afterCalls calls).toSnapshot := (toSnapshot_afterCalls (withConfig config) calls).symm
  subst s
  rw [hs calls]
  have h : ((withConfig config).afterCalls calls).Holds (registered calls) :=
    holds_afterCalls config calls
  generalize hr : (withConfig config).afterCalls calls = r at h ⊢
  have hversion : r.version = UInt64.ofNat (calls.filter Compiles).length :=
    hr ▸ version_afterCalls config calls
  refine ⟨rfl, r.agrees.nodup, fun _ => h.isSome_iff, fun _ => lt_size_iff,
    fun _ _ _ => idOf_injective, h.idOf, fun _ _ => h.exists_grammar, ?_, h.flags, hversion, ?_,
    r.isOk_toSnapshot_register, fun _ _ => toSnapshot_register_eq_error_iff, ?_,
    fun _ _ => r.toSnapshot_register_append⟩
  · intro later scope id hid
    rw [hs, afterCalls_append, hr]
    exact idOf_afterCalls hid later
  · intro hlt
    rw [hversion, UInt64.toNat_ofNat_of_lt' hlt]
  · intro ds hfail
    rw [hs, afterCalls_append, hr, afterCalls_of_not hfail]

/-- A grammar with a pattern that cannot be compiled. -/
def faultyGrammar : Descriptor :=
  { Descriptor.empty with
    scopeName := "source.faulty"
    patterns := [{ RuleSpec.empty with matchPattern := some "(" }] }

/-- Two grammars, of which one comes again in the same call and one in a later call, and between them
a call that fails after its first grammar. -/
def sampleCalls : List (List Descriptor) := [
  [lackingGrammar, otherGrammar, { lackingGrammar with scopeName := " source.lacking\t" }],
  [sampleGrammar, faultyGrammar],
  [otherGrammar]]

/-- The scope that comes again with blanks around it keeps its place, nothing is left of the call that
fails, and two more grammars may come in one call or in two. -/
theorem snapshot_after_sampleCalls :
    let s := (Snapshot.withConfig .default).afterCalls sampleCalls
    s.byScope = [("source.other", 1), ("source.lacking", 0)] ∧ s.grammars.size = 2 ∧
      s.version.toNat = 2 ∧
      (∃ g, s.grammars[0]? = some g ∧ g.scope = "source.lacking" ∧
        LatestOf (registered sampleCalls) g) ∧
      ((Snapshot.withConfig .default).afterCalls
        (sampleCalls ++ [[sampleGrammar]])).byScope.lookup "source.lacking" = some 0 ∧
      (Snapshot.withConfig .default).afterCalls (sampleCalls ++ [[sampleGrammar, faultyGrammar]]) = s ∧
      ∃ whole first second, s.register ([sampleGrammar] ++ [otherGrammar]) = .ok whole ∧
        s.register [sampleGrammar] = .ok first ∧ first.register [otherGrammar] = .ok second ∧
        second = { whole with version := whole.version + 1 } := by
  intro s
  obtain ⟨-, -, -, -, -, -, hgrammars, hkept, -, -, hversion, -, -, hfailed, happend⟩ :=
    snapshot_after_calls .default sampleCalls
  have htable : s.byScope = [("source.other", 1), ("source.lacking", 0)] := by decide +kernel
  have hdone : (sampleCalls.filter Compiles).length = 2 := by decide +kernel
  have hlacking : s.byScope.lookup "source.lacking" = some 0 := by
    rw [htable]
    decide
  rw [hdone] at hversion
  exact ⟨htable, by decide +kernel, hversion (by decide), hgrammars _ _ hlacking,
    hkept _ _ _ hlacking, hfailed _ (by decide +kernel), happend _ _ (by decide +kernel)⟩

end Calls

end Registry

end Scopelight
