import Mathlib.Data.List.Basic
import Scopelight.Proofs.Depth

/-!
# Splicing in place

What an expansion finds can be said without a set of visited rules: put the rules that a rule stands
for in its place, again and again, and of the rules that are left keep the first occurrences
(`Spliced`). This ends unless a rule leads to itself, and then the expansion finds the same rules in
the same order (`foldl_spliced`). A rule that was visited is finished, or it is one of those in which
the expansion is just now. The latter are not included again, for then they would lead to themselves.
-/

namespace Scopelight

namespace Registry

/-- As long as a list begins with a rule that stands for others, these take its place. -/
inductive Spliced (r : Registry) (base : Nat) : List RuleRef → List RuleRef → Prop
  | nil : Spliced r base [] []
  | keep {ref : RuleRef} {refs out : List RuleRef} (hc : r.Concrete ref) :
    Spliced r base refs out → Spliced r base (ref :: refs) (ref :: out)
  | splice {ref : RuleRef} {refs out : List RuleRef} (hc : ¬ r.Concrete ref) :
    Spliced r base (r.parts base ref ++ refs) out → Spliced r base (ref :: refs) out

/-- No rule that this one leads to leads to itself. -/
def LoopFree (r : Registry) (base : Nat) (ref : RuleRef) : Prop :=
  ∀ way x, r.Leads base ref way x → ∀ loop, r.Leads base x loop x → loop = []

section Spliced

variable {r : Registry} {base : Nat} {ref next last part x : RuleRef} {way : List RuleRef}
  {refs refs' out out' : List RuleRef}

theorem Spliced.unique (h : r.Spliced base refs out) (h' : r.Spliced base refs out') :
    out = out' := by
  induction h generalizing out' with
  | nil =>
    cases h'
    rfl
  | keep hc _ ih =>
    cases h' with
    | keep _ h' => rw [ih h']
    | splice hc' => exact absurd hc hc'
  | splice hc _ ih =>
    cases h' with
    | keep hc' => exact absurd hc' hc
    | splice _ h' => exact ih h'

theorem Spliced.append (h : r.Spliced base refs out) (h' : r.Spliced base refs' out') :
    r.Spliced base (refs ++ refs') (out ++ out') := by
  induction h with
  | nil => exact h'
  | keep hc _ ih => exact .keep hc ih
  | splice hc _ ih =>
    rw [List.append_assoc] at ih
    exact .splice hc ih

theorem Spliced.of_append (h : r.Spliced base (refs ++ refs') out) :
    ∃ out₁ out₂, out = out₁ ++ out₂ ∧ r.Spliced base refs out₁ ∧ r.Spliced base refs' out₂ := by
  generalize hall : refs ++ refs' = all at h
  induction h generalizing refs with
  | nil =>
    obtain ⟨rfl, rfl⟩ := List.append_eq_nil_iff.1 hall
    exact ⟨[], [], rfl, .nil, .nil⟩
  | @keep ref rest out hc h ih =>
    rcases refs with _ | ⟨first, refs⟩
    · rw [List.nil_append] at hall
      exact ⟨[], ref :: out, rfl, .nil, hall ▸ .keep hc h⟩
    · obtain ⟨rfl, hrest⟩ := List.cons.inj hall
      obtain ⟨out₁, out₂, rfl, h₁, h₂⟩ := ih hrest
      exact ⟨first :: out₁, out₂, rfl, .keep hc h₁, h₂⟩
  | @splice ref rest out hc h ih =>
    rcases refs with _ | ⟨first, refs⟩
    · rw [List.nil_append] at hall
      exact ⟨[], out, rfl, .nil, hall ▸ .splice hc h⟩
    · obtain ⟨rfl, hrest⟩ := List.cons.inj hall
      have hparts : r.parts base first ++ refs ++ refs' = r.parts base first ++ rest := by
        rw [List.append_assoc]
        exact congrArg _ hrest
      obtain ⟨out₁, out₂, rfl, h₁, h₂⟩ := ih hparts
      exact ⟨out₁, out₂, rfl, .splice hc h₁, h₂⟩

theorem Concrete.spliced_iff (h : r.Concrete ref) : r.Spliced base [ref] out ↔ out = [ref] := by
  constructor
  · intro hout
    cases hout with
    | keep _ hout =>
      cases hout
      rfl
    | splice hc => exact absurd h hc
  · rintro rfl
    exact .keep h .nil

theorem spliced_iff_parts (h : ¬ r.Concrete ref) :
    r.Spliced base [ref] out ↔ r.Spliced base (r.parts base ref) out := by
  constructor
  · intro hout
    cases hout with
    | keep hc => exact absurd hc h
    | splice _ hout => simpa using hout
  · intro hout
    exact .splice h (by simpa using hout)

/-! ## Splicing ends where nothing leads to itself -/

theorem LoopFree.of_part (h : r.LoopFree base ref) (hpart : part ∈ r.parts base ref) :
    r.LoopFree base part :=
  fun _ x hway loop hloop => h _ x (.on hpart hway) loop hloop

theorem Leads.of_mem (h : r.Leads base ref way last) (hx : x ∈ way) :
    ∃ way', r.Leads base ref way' x := by
  induction h with
  | here => cases hx
  | on hpart _ ih =>
    rcases List.mem_cons.1 hx with rfl | hx
    · exact ⟨[], .here _⟩
    · obtain ⟨way', hway'⟩ := ih hx
      exact ⟨_, .on hpart hway'⟩

theorem Leads.subset_refs (h : r.Leads base ref way last) : way ⊆ r.refs := by
  induction h with
  | here => exact List.nil_subset _
  | @on ref next last way hpart _ ih =>
    refine List.cons_subset.2 ⟨?_, ih⟩
    rcases hr : r.rule? ref with _ | rule
    · simp [parts, hr] at hpart
    · exact mem_refs hr

theorem LoopFree.nodup (h : r.LoopFree base ref) (hway : r.Leads base ref way last) :
    way.Nodup := by
  induction hway with
  | here => exact List.nodup_nil
  | @on ref next last way hpart hway ih =>
    refine List.nodup_cons.2 ⟨fun hmem => ?_, ih (h.of_part hpart)⟩
    obtain ⟨way', hback⟩ := hway.of_mem hmem
    have hloop := h [] ref (.here ref) _ (.on hpart hback)
    cases hloop

theorem LoopFree.length_le (h : r.LoopFree base ref) (hway : r.Leads base ref way last) :
    way.length ≤ r.refs.length :=
  (h.nodup hway).length_le_of_subset hway.subset_refs

theorem exists_spliced_of_forall (h : ∀ ref ∈ refs, ∃ out, r.Spliced base [ref] out) :
    ∃ out, r.Spliced base refs out := by
  induction refs with
  | nil => exact ⟨[], .nil⟩
  | cons ref refs ih =>
    obtain ⟨out, hout⟩ := h ref List.mem_cons_self
    obtain ⟨rest, hrest⟩ := ih fun x hx => h x (List.mem_cons_of_mem ref hx)
    exact ⟨out ++ rest, hout.append hrest⟩

theorem exists_spliced_of_parts (h : ∃ out, r.Spliced base (r.parts base ref) out) :
    ∃ out, r.Spliced base [ref] out := by
  by_cases hc : r.Concrete ref
  · exact ⟨[ref], .keep hc .nil⟩
  · obtain ⟨out, hout⟩ := h
    exact ⟨out, (spliced_iff_parts hc).2 hout⟩

theorem exists_spliced_of_length_le (n : Nat)
    (h : ∀ way x, r.Leads base ref way x → way.length ≤ n) : ∃ out, r.Spliced base [ref] out := by
  induction n generalizing ref with
  | zero =>
    have hnone : r.parts base ref = [] := by
      refine List.eq_nil_iff_forall_not_mem.2 fun part hpart => ?_
      have hlen := h _ part (.on hpart (.here part))
      simp at hlen
    refine exists_spliced_of_parts ⟨[], ?_⟩
    rw [hnone]
    exact .nil
  | succ n ih =>
    refine exists_spliced_of_parts (exists_spliced_of_forall fun part hpart => ?_)
    refine ih fun way x hway => ?_
    have hlen := h _ x (.on hpart hway)
    simpa using hlen

theorem LoopFree.exists_spliced (h : ∀ ref ∈ refs, r.LoopFree base ref) :
    ∃ out, r.Spliced base refs out :=
  exists_spliced_of_forall fun ref href =>
    exists_spliced_of_length_le r.refs.length fun _ _ hway => (h ref href).length_le hway

/-- No rule leads to itself if all rules come after those that they stand for. -/
theorem loopFree_of_rank (rank : RuleRef → Nat)
    (h : ∀ ref ∈ r.refs, ∀ part ∈ r.parts base ref, rank part < rank ref) :
    r.LoopFree base ref := by
  have hway : ∀ {ref way last}, r.Leads base ref way last →
      rank last + way.length ≤ rank ref := by
    intro ref way last hway
    induction hway with
    | here => simp
    | @on ref next last way hpart hway ih =>
      have hmem : ref ∈ r.refs := (Leads.on hpart hway).subset_refs List.mem_cons_self
      have hlt := h ref hmem next hpart
      simp only [List.length_cons]
      omega
  intro _ x _ loop hloop
  have hle := hway hloop
  exact List.length_eq_zero_iff.1 (by omega)

end Spliced

end Registry

/-! ## The expansion -/

/-- Everything that the rule stands for is in the list. -/
def Registry.Finished (r : Registry) (base : Nat) (done : List RuleRef) (ref : RuleRef) : Prop :=
  ∀ out, r.Spliced base [ref] out → out ⊆ done

/-- The first occurrences in `done` were found, and `refs` is to be expanded next. A rule that was
visited is finished, or the expansion is inside it. -/
structure Course.Ready (r : Registry) (base : Nat) (c : Course) (done refs : List RuleRef) :
    Prop where
  tidy : c.expansion.Tidy r
  found : c.expansion.found.reverse = done.eraseDups
  visited : ∀ x ∈ c.expansion.visited,
    r.Finished base done x ∨ ∀ ref ∈ refs, ∃ way, r.Leads base x way ref

/-- The course goes on until the first occurrences in `done` are found, and leaves no rule open. -/
structure Course.Finds (r : Registry) (base : Nat) (c c' : Course) (done : List RuleRef) :
    Prop where
  tidy : c'.expansion.Tidy r
  found : c'.expansion.found.reverse = done.eraseDups
  visited : ∀ x ∈ c'.expansion.visited, x ∈ c.expansion.visited ∨ r.Finished base done x

section Course

variable {r : Registry} {base room : Nat} {c c' : Course} {ref x : RuleRef}
  {done out refs : List RuleRef}

theorem Registry.Finished.append (h : r.Finished base done x) :
    r.Finished base (done ++ out) x :=
  fun _ hspliced => List.Subset.trans (h _ hspliced) (List.subset_append_left _ _)

theorem eraseDups_append_of_subset (h : out ⊆ done) :
    (done ++ out).eraseDups = done.eraseDups := by
  have hnone : out.removeAll done = [] := by
    refine List.filter_eq_nil_iff.2 fun x hx => ?_
    simpa using h hx
  rw [List.eraseDups_append, hnone]
  simp

theorem eraseDups_concat_of_not_mem (h : x ∉ done) :
    (done ++ [x]).eraseDups = done.eraseDups ++ [x] := by
  rw [List.eraseDups_append]
  simp [List.removeAll, h, List.eraseDups_cons]

theorem Course.Ready.mem_found (h : c.Ready r base done refs) :
    x ∈ c.expansion.found ↔ x ∈ done := by
  rw [← List.mem_reverse, h.found, List.mem_eraseDups]

theorem Course.Ready.next (h : c.Ready r base done (ref :: refs))
    (hnext : c.Finds r base c' (done ++ out)) : c'.Ready r base (done ++ out) refs where
  tidy := hnext.tidy
  found := hnext.found
  visited x hx := by
    rcases hnext.visited x hx with hx | hx
    · rcases h.visited x hx with hx | hx
      · exact .inl hx.append
      · exact .inr fun ref href => hx ref (List.mem_cons_of_mem _ href)
    · exact .inl hx

/-- The rules of a list are expanded one after the other. -/
theorem foldl_finds
    (ih : ∀ (c : Course) (ref : RuleRef) (done out : List RuleRef), c.Ready r base done [ref] →
      r.LoopFree base ref → (r.course base room c ref).cut = [] → r.Spliced base [ref] out →
      c.Finds r base (r.course base room c ref) (done ++ out))
    (hc : c.Ready r base done refs) (hfree : ∀ ref ∈ refs, r.LoopFree base ref)
    (hcut : (refs.foldl (r.course base room) c).cut = []) (hout : r.Spliced base refs out) :
    c.Finds r base (refs.foldl (r.course base room) c) (done ++ out) := by
  induction refs generalizing c done out with
  | nil =>
    cases hout
    rw [List.append_nil]
    exact ⟨hc.tidy, hc.found, fun x hx => .inl hx⟩
  | cons ref refs ihrefs =>
    have hcons : r.Spliced base ([ref] ++ refs) out := hout
    obtain ⟨out₁, out₂, rfl, h₁, h₂⟩ := hcons.of_append
    have hgrows := grows_foldl r base room refs (r.course base room c ref)
    have hcut₁ : (r.course base room c ref).cut = [] := List.subset_nil.1 (hcut ▸ hgrows.cut)
    have hready : c.Ready r base done [ref] := ⟨hc.tidy, hc.found, fun x hx =>
      (hc.visited x hx).imp_right fun h => by simpa using h ref List.mem_cons_self⟩
    have hfirst := ih c ref done out₁ hready (hfree ref List.mem_cons_self) hcut₁ h₁
    have hrest := ihrefs (hc.next hfirst) (fun x hx => hfree x (List.mem_cons_of_mem _ hx)) hcut h₂
    rw [List.append_assoc] at hrest
    refine ⟨hrest.tidy, hrest.found, fun x hx => ?_⟩
    rcases hrest.visited x hx with hx | hx
    · refine (hfirst.visited x hx).imp_right fun h => ?_
      rw [← List.append_assoc]
      exact h.append
    · exact .inr hx

theorem Course.Ready.finds_nothing (h : c.Ready r base done refs) (hout : out ⊆ done)
    (entered : List RuleRef) : c.Finds r base ⟨c.expansion, entered, c.cut⟩ (done ++ out) := by
  refine ⟨h.tidy, ?_, fun x hx => .inl hx⟩
  rw [eraseDups_append_of_subset hout]
  exact h.found

theorem Course.Ready.finds_new (h : c.Ready r base done refs) (hconcrete : r.Concrete ref)
    (hv : ref ∉ c.expansion.visited) (entered : List RuleRef) :
    c.Finds r base ⟨⟨ref :: c.expansion.visited, ref :: c.expansion.found⟩, entered, c.cut⟩
      (done ++ [ref]) := by
  have hnew : ref ∉ done := fun hmem => hv ((h.tidy.mem_found ref).1 (h.mem_found.2 hmem)).1
  have hentry : r.Entry base c.expansion ref
      ⟨ref :: c.expansion.visited, ref :: c.expansion.found⟩ [] := .find hconcrete hv
  refine ⟨hentry.tidy h.tidy, ?_, fun x hx => ?_⟩
  · rw [eraseDups_concat_of_not_mem hnew, ← h.found]
    exact List.reverse_cons
  · rcases List.mem_cons.1 hx with rfl | hx
    · refine .inr fun out hout => ?_
      rw [hconcrete.spliced_iff] at hout
      simp [hout]
    · exact .inl hx

/-- What leads to a rule leads on to its parts. -/
theorem Course.Ready.parts (h : c.Ready r base done [ref]) :
    ∀ x ∈ c.expansion.visited, r.Finished base done x ∨
      ∀ part ∈ r.parts base ref, ∃ way, r.Leads base x way part := by
  intro x hx
  refine (h.visited x hx).imp_right fun h part hpart => ?_
  obtain ⟨way, hway⟩ := h ref List.mem_cons_self
  exact ⟨_, hway.append (.on hpart (.here part))⟩

/-- A set that was marked is finished, for the expansion is not inside it: it would lead to itself. -/
theorem Course.Ready.finished (h : c.Ready r base done [ref]) (hfree : r.LoopFree base ref)
    (hx : x ∈ r.parts base ref) (hv : x ∈ c.expansion.visited) : r.Finished base done x := by
  rcases h.visited x hv with hx | hopen
  · exact hx
  · obtain ⟨way, hway⟩ := hopen ref List.mem_cons_self
    have hloop := hfree [] ref (.here ref) _ (.on hx hway)
    cases hloop

/-- The set that an include stands for is marked before its rules are expanded. -/
theorem Course.Ready.splice {t : RuleRef} (h : c.Ready r base done [ref])
    (hp : r.parts base ref = [t])
    (htidy : Expansion.Tidy r { c.expansion with visited := t :: c.expansion.visited })
    (entered : List RuleRef) :
    Course.Ready r base ⟨{ c.expansion with visited := t :: c.expansion.visited }, entered, c.cut⟩
      done (r.parts base ref) := by
  refine ⟨htidy, h.found, fun x hx => ?_⟩
  rcases List.mem_cons.1 hx with rfl | hx
  · refine .inr fun part hpart => ⟨[], ?_⟩
    rw [hp, List.mem_singleton] at hpart
    rw [hpart]
    exact .here x
  · exact h.parts x hx

/-- An expansion from a rule that does not lead to itself finds the rules that are left when it is
spliced, as far as they were not found before. -/
theorem course_finds (hc : c.Ready r base done [ref]) (hfree : r.LoopFree base ref)
    (hcut : (r.course base room c ref).cut = []) (hout : r.Spliced base [ref] out) :
    c.Finds r base (r.course base room c ref) (done ++ out) := by
  induction room generalizing c ref done out with
  | zero => cases hcut
  | succ room ih =>
    have hentry := r.enter_entry base c.expansion ref
    have htidy := hentry.tidy hc.tidy
    unfold Registry.course at hcut ⊢
    generalize (r.enter base c.expansion ref).1 = e at *
    generalize (r.enter base c.expansion ref).2 = next at *
    have hfold (hnot : ¬ r.Concrete ref) (hready : Course.Ready r base ⟨e, ref :: c.entered, c.cut⟩
        done (r.parts base ref)) (hnext : next = r.parts base ref) :
        Course.Finds r base ⟨e, ref :: c.entered, c.cut⟩
          (next.foldl (r.course base room) ⟨e, ref :: c.entered, c.cut⟩) (done ++ out) := by
      subst hnext
      exact foldl_finds (fun c ref done out => ih) hready (fun part hpart => hfree.of_part hpart)
        hcut ((Registry.spliced_iff_parts hnot).1 hout)
    cases hentry with
    | again hconcrete hv =>
      rw [hconcrete.spliced_iff] at hout
      have hfound : ref ∈ c.expansion.found := (hc.tidy.mem_found ref).2 ⟨hv, hconcrete⟩
      refine hc.finds_nothing ?_ _
      simpa [hout] using hc.mem_found.1 hfound
    | find hconcrete hv =>
      rw [hconcrete.spliced_iff] at hout
      rw [hout]
      exact hc.finds_new hconcrete hv _
    | @skip t hnot hp ht hv =>
      rw [Registry.spliced_iff_parts hnot, hp] at hout
      exact hc.finds_nothing (hc.finished hfree (by simp [hp]) hv out hout) _
    | @splice t _ _ hr hp ht hv =>
      have hnot := Registry.not_concrete_of_inclusion hr
      have h := hfold hnot (hc.splice hp htidy _) hp.symm
      rw [Registry.spliced_iff_parts hnot, hp] at hout
      -- The set is finished now, for it is all that the include stands for.
      have hfinished : r.Finished base (done ++ out) t := fun out' hout' => by
        rw [hout'.unique hout]
        exact List.subset_append_right _ _
      refine ⟨h.tidy, h.found, fun x hx => ?_⟩
      rcases h.visited x hx with hx | hx
      · rcases List.mem_cons.1 hx with rfl | hx
        · exact .inr hfinished
        · exact .inl hx
      · exact .inr hx
    | group hr =>
      have h := hfold (Registry.not_concrete_of_group hr) ⟨htidy, hc.found, hc.parts⟩ rfl
      exact ⟨h.tidy, h.found, h.visited⟩
    | follow hnot hp =>
      have h := hfold hnot ⟨htidy, hc.found, hc.parts⟩ rfl
      exact ⟨h.tidy, h.found, h.visited⟩

end Course

namespace Registry

section Nested

variable {r : Registry} {base limit : Nat} {owner : RuleRef} {out : List RuleRef}

theorem expandNested_of_spliced (hfree : ∀ start ∈ r.nestedRefs owner, r.LoopFree base start)
    (hcut : r.cutNested base limit owner = []) (hout : r.Spliced base (r.nestedRefs owner) out) :
    r.expandNested base limit owner = out.eraseDups := by
  have hready : Course.Ready r base ⟨.start, [], []⟩ [] (r.nestedRefs owner) :=
    ⟨tidy_start r, rfl, fun x hx => by simp [Expansion.start] at hx⟩
  have h := foldl_finds (fun _ _ _ _ => course_finds) hready hfree hcut hout
  rw [expandNested_eq_course]
  exact h.found

theorem nodup_expandNested (r : Registry) (base limit : Nat) (owner : RuleRef) :
    (r.expandNested base limit owner).Nodup := by
  rw [expandNested_eq_course, List.nodup_reverse]
  exact (tidy_courseNested r base limit owner).nodup

/-- An expansion ends at a depth that only the grammars tell. It finds rules that match something
themselves and that some way leads to, each once. If no rule leads to itself and nothing was cut,
these are the first occurrences of what is left when all rules are spliced in place. -/
theorem expandNested_sound_in_order (h : r.Built) (base : Nat) (owner : RuleRef) :
    (∀ limit, r.depthBound ≤ limit → r.cutNested base limit owner = [] ∧
      r.expandNested base limit owner = r.expandNested base r.depthBound owner) ∧
    ∀ limit, (r.expandNested base limit owner).Nodup ∧
      (∀ ref ∈ r.expandNested base limit owner, r.Concrete ref ∧
        ∃ start ∈ r.nestedRefs owner, ∃ way, r.Leads base start way ref ∧ way.length ≤ limit) ∧
      ((∀ start ∈ r.nestedRefs owner, r.LoopFree base start) →
        r.cutNested base limit owner = [] →
        ∃ out, (∀ out', r.Spliced base (r.nestedRefs owner) out' ↔ out' = out) ∧
          r.expandNested base limit owner = out.eraseDups) := by
  refine ⟨fun limit hle => ⟨cutNested_eq_nil h hle, expandNested_of_depthBound_le h hle⟩,
    fun limit => ⟨nodup_expandNested r base limit owner, fun ref href => ?_, fun hfree hcut => ?_⟩⟩
  · exact ⟨concrete_of_mem_expandNested href, exists_leads_of_mem_expandNested href⟩
  · obtain ⟨out, hout⟩ := LoopFree.exists_spliced hfree
    refine ⟨out, fun out' => ⟨fun hout' => hout'.unique hout, ?_⟩,
      expandNested_of_spliced hfree hcut hout⟩
    rintro rfl
    exact hout

/-- How many levels of includes and groups are below the rules of the grammar with a detour. -/
def detourRank (ref : RuleRef) : Nat := [0, 1, 2, 3, 0, 1, 4, 2, 2, 5].getD ref.rule 0

/-- The set that is included twice is spliced in where it is included first. -/
theorem detour_expands_in_order :
    ∃ r, empty.register [detourGrammar] = .ok r ∧ r.Built ∧
      r.cutNested 0 r.depthBound ⟨0, 9⟩ = [] ∧ r.cutNested 0 4 ⟨0, 9⟩ = [] ∧
      (∀ start ∈ r.nestedRefs ⟨0, 9⟩, r.LoopFree 0 start) ∧
      ∃ out, (∀ out', r.Spliced 0 (r.nestedRefs ⟨0, 9⟩) out' ↔ out' = out) ∧
        out.eraseDups = [⟨0, 4⟩, ⟨0, 0⟩] := by
  have hrun : (empty.register [detourGrammar]).toOption.any (fun r =>
      r.cutNested 0 4 ⟨0, 9⟩ == [] && (r.expandNested 0 4 ⟨0, 9⟩ == [⟨0, 4⟩, ⟨0, 0⟩] &&
        r.refs.all fun ref => (r.parts 0 ref).all fun part =>
          decide (detourRank part < detourRank ref))) = true := by decide +kernel
  obtain ⟨r, hr, hrun⟩ := exists_ok_of_any hrun
  simp only [Bool.and_eq_true, beq_iff_eq, List.all_eq_true, decide_eq_true_eq] at hrun
  obtain ⟨hcut, hfound, hrank⟩ := hrun
  have hbuilt : r.Built := .register (.withConfig _) hr
  have hfree : ∀ start ∈ r.nestedRefs ⟨0, 9⟩, r.LoopFree 0 start := fun _ _ =>
    loopFree_of_rank detourRank hrank
  obtain ⟨hends, hspliced⟩ := expandNested_sound_in_order hbuilt 0 ⟨0, 9⟩
  obtain ⟨out, hout, horder⟩ := (hspliced 4).2.2 hfree hcut
  refine ⟨r, hr, hbuilt, (hends r.depthBound (Nat.le_refl _)).1, hcut, hfree, out, hout, ?_⟩
  rw [← horder, hfound]

end Nested

end Registry

end Scopelight
