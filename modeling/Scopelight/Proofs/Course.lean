import Scopelight.Proofs.Expansion
import Scopelight.Proofs.Outcome

/-!
# The course of an expansion

An expansion enters rules one after the other. Entering a rule does one of six things to what was met
so far and names the rules to enter next (`Entry`), and a rule for which there is no room is cut. The
`Course` keeps the rules that were entered and the rules that were cut, beside the expansion itself.

When the expansion is over every rule that was entered is done: it is found itself, and all that it
stands for was entered or cut (`Course.Done`). So the limit costs nothing but what lies behind a cut
rule, and a cut rule lies too deep on some way (`found_unless_cut`). It may lie less deep on another
way. A set of rules is marked before its depth is looked at, and then the shorter way to it is not
taken any more (`short_way_lost`).
-/

namespace Scopelight

namespace Registry

/-! ## Ways through includes and groups -/

/-- The rules that a rule stands for: the target of an include, the rules of a group. -/
def parts (r : Registry) (base : Nat) (ref : RuleRef) : List RuleRef :=
  match r.rule? ref with
  | some (.inclusion target repository) => (r.target? base ref.grammar target repository).toList
  | some (.group ids) => ids.map (⟨ref.grammar, ·⟩)
  | _ => []

/-- The rules nested in a rule, as they stand in its grammar. -/
def nestedRefs (r : Registry) (owner : RuleRef) : List RuleRef :=
  (((r.rule? owner).map (·.nested)).getD []).map (⟨owner.grammar, ·⟩)

/-- A way from one rule to another through includes and groups. The list has the rules on the way, the
last one apart, so its length is the depth. -/
inductive Leads (r : Registry) (base : Nat) : RuleRef → List RuleRef → RuleRef → Prop
  | here (ref : RuleRef) : Leads r base ref [] ref
  | on {ref next last : RuleRef} {way : List RuleRef} :
    next ∈ r.parts base ref → Leads r base next way last → Leads r base ref (ref :: way) last

section Ways

variable {r : Registry} {base : Nat} {ref next last : RuleRef} {way way' : List RuleRef}

theorem Leads.append (h : r.Leads base ref way next) (h' : r.Leads base next way' last) :
    r.Leads base ref (way ++ way') last := by
  induction h with
  | here => exact h'
  | on hpart _ ih => exact .on hpart (ih h')

theorem Concrete.parts_eq_nil (h : r.Concrete ref) : r.parts base ref = [] := by
  obtain ⟨rule, p, hr, hp⟩ := h
  cases rule <;> simp_all [parts, Rule.scanPattern?]

theorem splices_iff : r.splices ref = true ↔ (r.rule? ref).isSome ∧ ¬ r.Concrete ref := by
  rcases hr : r.rule? ref with _ | rule
  · simp [splices, hr]
  · cases hp : rule.scanPattern? <;> simp [splices, Concrete, hr, hp]

theorem expandNested_eq (r : Registry) (base limit : Nat) (owner : RuleRef) :
    r.expandNested base limit owner =
      ((r.nestedRefs owner).foldl (r.expand base (limit + 1)) .start).found.reverse := by
  unfold expandNested nestedRefs
  rcases r.rule? owner with _ | rule
  · rfl
  · rw [Option.map_some, Option.getD_some, List.foldl_map]

end Ways

/-! ## Entering a rule -/

/-- What entering a rule makes of an expansion, and the rules that are entered after it. -/
def enter (r : Registry) (base : Nat) (e : Expansion) (ref : RuleRef) :
    Expansion × List RuleRef :=
  match r.rule? ref with
  | none => (e, [])
  | some (.inclusion target repository) =>
    match r.target? base ref.grammar target repository with
    | none => (e, [])
    | some t =>
      if r.splices t then
        if t ∈ e.visited then (e, []) else ({ e with visited := t :: e.visited }, [t])
      else (e, [t])
  | some (.group ids) => (e, ids.map (⟨ref.grammar, ·⟩))
  | some _ => (if ref ∈ e.visited then e else ⟨ref :: e.visited, ref :: e.found⟩, [])

/-- The cases of entering a rule. -/
inductive Entry (r : Registry) (base : Nat) (e : Expansion) (ref : RuleRef) :
    Expansion → List RuleRef → Prop
  /-- The rule was found before. -/
  | again (hc : r.Concrete ref) (hv : ref ∈ e.visited) : Entry r base e ref e []
  | find (hc : r.Concrete ref) (hv : ref ∉ e.visited) :
    Entry r base e ref ⟨ref :: e.visited, ref :: e.found⟩ []
  /-- The rules that are included were spliced in before. -/
  | skip {t : RuleRef} (hc : ¬ r.Concrete ref) (hp : r.parts base ref = [t])
      (ht : r.splices t = true) (hv : t ∈ e.visited) : Entry r base e ref e []
  | splice {t : RuleRef} {target : IncludeTarget} {repository : RepositoryId}
      (hr : r.rule? ref = some (.inclusion target repository)) (hp : r.parts base ref = [t])
      (ht : r.splices t = true) (hv : t ∉ e.visited) :
    Entry r base e ref { e with visited := t :: e.visited } [t]
  | group {ids : List RuleId} (hr : r.rule? ref = some (.group ids)) :
    Entry r base e ref e (r.parts base ref)
  /-- An include of one rule that matches something, or of nothing; or no rule at all. -/
  | follow (hc : ¬ r.Concrete ref)
      (hp : ∀ t ∈ r.parts base ref, r.splices t = false ∧
        ∃ target repository, r.rule? ref = some (.inclusion target repository)) :
    Entry r base e ref e (r.parts base ref)

section Enter

variable {r : Registry} {base room : Nat} {e : Expansion} {ref : RuleRef}

theorem not_concrete_of_inclusion {target : IncludeTarget} {repository : RepositoryId}
    (hr : r.rule? ref = some (.inclusion target repository)) : ¬ r.Concrete ref := by
  rintro ⟨rule, p, hr', hp⟩
  rw [hr] at hr'
  cases hr'
  cases hp

theorem not_concrete_of_group {ids : List RuleId} (hr : r.rule? ref = some (.group ids)) :
    ¬ r.Concrete ref := by
  rintro ⟨rule, p, hr', hp⟩
  rw [hr] at hr'
  cases hr'
  cases hp

/-- Expanding a rule is entering it and then expanding the rules that come after it. -/
theorem expand_succ (r : Registry) (base room : Nat) (e : Expansion) (ref : RuleRef) :
    r.expand base (room + 1) e ref =
      (r.enter base e ref).2.foldl (r.expand base room) (r.enter base e ref).1 := by
  rcases hr : r.rule? ref with _ | rule
  · simp [expand_of_none hr, enter, hr]
  rcases hp : rule.scanPattern? with _ | p
  · cases rule with
    | inclusion target repository =>
      rw [expand_inclusion hr]
      rcases ht : r.target? base ref.grammar target repository with _ | t
      · simp [enter, hr, ht]
      · by_cases hs : r.splices t = true <;> by_cases hv : t ∈ e.visited <;>
          simp [enter, hr, ht, hs, hv]
    | group ids =>
      rw [expand_group hr]
      simp [enter, hr, List.foldl_map]
    | _ => cases hp
  · rw [expand_of_scanPattern hr hp]
    cases rule <;> simp_all [enter, Rule.scanPattern?]

theorem enter_entry (r : Registry) (base : Nat) (e : Expansion) (ref : RuleRef) :
    r.Entry base e ref (r.enter base e ref).1 (r.enter base e ref).2 := by
  have hfollow (hc : ¬ r.Concrete ref) (he : r.enter base e ref = (e, r.parts base ref))
      (hp : ∀ t ∈ r.parts base ref, r.splices t = false ∧
        ∃ target repository, r.rule? ref = some (.inclusion target repository)) :
      r.Entry base e ref (r.enter base e ref).1 (r.enter base e ref).2 := by
    rw [he]
    exact .follow hc hp
  rcases hr : r.rule? ref with _ | rule
  · refine hfollow ?_ (by simp [enter, parts, hr]) (by simp [parts, hr])
    rintro ⟨rule, p, hr', -⟩
    rw [hr] at hr'
    cases hr'
  rcases hp : rule.scanPattern? with _ | p
  · cases rule with
    | inclusion target repository =>
      have hc := not_concrete_of_inclusion hr
      rcases ht : r.target? base ref.grammar target repository with _ | t
      · exact hfollow hc (by simp [enter, parts, hr, ht]) (by simp [parts, hr, ht])
      have hparts : r.parts base ref = [t] := by simp [parts, hr, ht]
      by_cases hs : r.splices t = true
      · by_cases hv : t ∈ e.visited
        · have he : r.enter base e ref = (e, []) := by simp [enter, hr, ht, hs, hv]
          rw [he]
          exact .skip hc hparts hs hv
        · have he : r.enter base e ref = ({ e with visited := t :: e.visited }, [t]) := by
            simp [enter, hr, ht, hs, hv]
          rw [he]
          exact .splice hr hparts hs hv
      · refine hfollow hc (by simp [enter, hparts, hr, ht, hs]) fun u hu => ?_
        rw [hparts, List.mem_singleton] at hu
        exact ⟨by simpa [hu] using hs, target, repository, hr⟩
    | group ids =>
      have he : r.enter base e ref = (e, r.parts base ref) := by simp [enter, parts, hr]
      rw [he]
      exact .group hr
    | _ => cases hp
  · have hc : r.Concrete ref := ⟨rule, p, hr, hp⟩
    have he : r.enter base e ref =
        (if ref ∈ e.visited then e else ⟨ref :: e.visited, ref :: e.found⟩, []) := by
      cases rule <;> simp_all [enter, Rule.scanPattern?]
    rw [he]
    by_cases hv : ref ∈ e.visited
    · rw [if_pos hv]
      exact .again hc hv
    · rw [if_neg hv]
      exact .find hc hv

theorem Entry.subset_parts {e' : Expansion} {refs : List RuleRef}
    (h : r.Entry base e ref e' refs) : refs ⊆ r.parts base ref := by
  cases h with
  | again | find | skip => exact List.nil_subset _
  | splice hr hp => rw [hp]; exact List.Subset.refl _
  | group | follow => exact List.Subset.refl _

end Enter

end Registry

/-- Found are those of the visited rules that match something themselves, each once. -/
structure Expansion.Tidy (r : Registry) (e : Expansion) : Prop where
  mem_found (ref : RuleRef) : ref ∈ e.found ↔ ref ∈ e.visited ∧ r.Concrete ref
  nodup : e.found.Nodup

section Tidy

variable {r : Registry} {base : Nat} {e e' : Expansion} {ref : RuleRef} {refs : List RuleRef}

theorem tidy_start (r : Registry) : Expansion.start.Tidy r where
  mem_found ref := by simp [Expansion.start]
  nodup := List.nodup_nil

theorem Registry.Entry.tidy (h : r.Entry base e ref e' refs) (he : e.Tidy r) : e'.Tidy r := by
  cases h with
  | again | skip | group | follow => exact he
  | find hc hv =>
    have hnew : ref ∉ e.found := fun hf => hv ((he.mem_found ref).1 hf).1
    refine ⟨fun x => ?_, List.nodup_cons.2 ⟨hnew, he.nodup⟩⟩
    by_cases hx : x = ref
    · simp [hx, hc]
    · simp [hx, he.mem_found x]
  | @splice t _ _ _ _ ht _ =>
    refine ⟨fun x => ?_, he.nodup⟩
    by_cases hx : x = t
    · have hnot : ¬ r.Concrete x := hx ▸ (Registry.splices_iff.1 ht).2
      simp [hnot, he.mem_found x]
    · simp [hx, he.mem_found x]

end Tidy

/-! ## The course -/

/-- An expansion with the rules that it entered and those that it had no room for, the latest
first. -/
structure Course where
  expansion : Expansion
  entered : List RuleRef
  cut : List RuleRef

namespace Registry

/-- Expand a rule and keep the course; the number is how many levels may still be entered. -/
def course (r : Registry) (base : Nat) : Nat → Course → RuleRef → Course
  | 0, c, ref => { c with cut := ref :: c.cut }
  | room + 1, c, ref =>
    (r.enter base c.expansion ref).2.foldl (r.course base room)
      ⟨(r.enter base c.expansion ref).1, ref :: c.entered, c.cut⟩

/-- The course of the expansion of what is nested in a rule. -/
def courseNested (r : Registry) (base limit : Nat) (owner : RuleRef) : Course :=
  (r.nestedRefs owner).foldl (r.course base (limit + 1)) ⟨.start, [], []⟩

/-- The rules at which the limit stops the expansion of what is nested in a rule. -/
def cutNested (r : Registry) (base limit : Nat) (owner : RuleRef) : List RuleRef :=
  (r.courseNested base limit owner).cut

section Course

variable {r : Registry} {base room : Nat} {c : Course} {ref : RuleRef} {refs : List RuleRef}

theorem expansion_course (r : Registry) (base room : Nat) (c : Course) (ref : RuleRef) :
    (r.course base room c ref).expansion = r.expand base room c.expansion ref := by
  induction room generalizing c ref with
  | zero => rfl
  | succ room ih =>
    rw [expand_succ]
    exact (List.foldl_hom Course.expansion fun c ref => (ih c ref).symm).symm

theorem expandNested_eq_course (r : Registry) (base limit : Nat) (owner : RuleRef) :
    r.expandNested base limit owner = (r.courseNested base limit owner).expansion.found.reverse := by
  rw [expandNested_eq, courseNested]
  have hhom : ∀ c ref, r.expand base (limit + 1) (Course.expansion c) ref =
      (r.course base (limit + 1) c ref).expansion := fun c ref => (expansion_course _ _ _ c ref).symm
  rw [← List.foldl_hom Course.expansion hhom]

/-- What is so at first, when a rule is cut and when one is entered is so in every course. -/
theorem course_rel {R : Course → Course → Prop} (htrans : ∀ a b c, R a b → R b c → R a c)
    (hrefl : ∀ c, R c c) (hcut : ∀ (c : Course) (ref : RuleRef), R c { c with cut := ref :: c.cut })
    (henter : ∀ (c : Course) (ref : RuleRef) e refs, r.Entry base c.expansion ref e refs →
      R c ⟨e, ref :: c.entered, c.cut⟩) : R c (r.course base room c ref) := by
  induction room generalizing c ref with
  | zero => exact hcut c ref
  | succ room ih =>
    refine htrans _ _ _ (henter c ref _ _ (r.enter_entry base c.expansion ref)) ?_
    exact List.foldlRecOn (motive := fun c' => R _ c') _ _ (hrefl _)
      fun c' hc' ref _ => htrans _ _ _ hc' ih

theorem tidy_course (hc : c.expansion.Tidy r) : (r.course base room c ref).expansion.Tidy r :=
  course_rel (R := fun c c' => c.expansion.Tidy r → c'.expansion.Tidy r)
    (fun _ _ _ h h' hc => h' (h hc)) (fun _ => id) (fun _ _ => id)
    (fun _ _ _ _ h hc => h.tidy hc) hc

/-- What a course adds to a list comes from the rule that it begins with or from a part of it. -/
theorem course_adds {f : Course → List RuleRef} {P : Nat → RuleRef → RuleRef → Prop}
    (hcut : ∀ (c : Course) (ref : RuleRef), ∀ x ∈ f { c with cut := ref :: c.cut },
      x ∈ f c ∨ P 0 ref x)
    (henter : ∀ room (c : Course) (ref : RuleRef) e refs, r.Entry base c.expansion ref e refs →
      ∀ x ∈ f ⟨e, ref :: c.entered, c.cut⟩, x ∈ f c ∨ P (room + 1) ref x)
    (hpart : ∀ room ref, ∀ part ∈ r.parts base ref, ∀ x, P room part x → P (room + 1) ref x) :
    ∀ x ∈ f (r.course base room c ref), x ∈ f c ∨ P room ref x := by
  induction room generalizing c ref with
  | zero => exact hcut c ref
  | succ room ih =>
    have hentry := r.enter_entry base c.expansion ref
    refine List.foldlRecOn
      (motive := fun c' => ∀ x ∈ f c', x ∈ f c ∨ P (room + 1) ref x) _ _
      (henter room c ref _ _ hentry) fun c' hc' part hmem x hx => ?_
    rcases ih x hx with hx | hx
    · exact hc' x hx
    · exact .inr (hpart room ref part (hentry.subset_parts hmem) x hx)

/-- A rule is cut as deep as there was room. -/
theorem mem_cut_course {x : RuleRef} (hx : x ∈ (r.course base room c ref).cut) :
    x ∈ c.cut ∨ ∃ way, r.Leads base ref way x ∧ way.length = room := by
  refine course_adds (f := Course.cut)
    (P := fun room ref x => ∃ way, r.Leads base ref way x ∧ way.length = room) ?_ ?_ ?_ x hx
  · intro c ref x hx
    rcases List.mem_cons.1 hx with rfl | hx
    · exact .inr ⟨[], .here x, rfl⟩
    · exact .inl hx
  · exact fun _ _ _ _ _ _ x hx => .inl hx
  · rintro room ref part hpart x ⟨way, hway, hlen⟩
    exact ⟨ref :: way, .on hpart hway, by simp [hlen]⟩

/-- A rule is found where there was room left. -/
theorem mem_found_course {x : RuleRef} (hx : x ∈ (r.course base room c ref).expansion.found) :
    x ∈ c.expansion.found ∨ ∃ way, r.Leads base ref way x ∧ way.length < room := by
  refine course_adds (f := fun c => c.expansion.found)
    (P := fun room ref x => ∃ way, r.Leads base ref way x ∧ way.length < room) ?_ ?_ ?_ x hx
  · exact fun _ _ x hx => .inl hx
  · intro room c ref e refs h x hx
    cases h with
    | find =>
      rcases List.mem_cons.1 hx with rfl | hx
      · exact .inr ⟨[], .here x, Nat.succ_pos room⟩
      · exact .inl hx
    | again | skip | splice | group | follow => exact .inl hx
  · rintro room ref part hpart x ⟨way, hway, hlen⟩
    exact ⟨ref :: way, .on hpart hway, by simpa using hlen⟩

end Course

end Registry

/-! ## Rules that are done -/

/-- The later course has all that the earlier one has. -/
structure Course.Grows (c c' : Course) : Prop where
  found : c.expansion.found ⊆ c'.expansion.found
  entered : c.entered ⊆ c'.entered
  cut : c.cut ⊆ c'.cut

/-- The rule was entered, or there was no room for it. -/
def Course.Met (c : Course) (ref : RuleRef) : Prop := ref ∈ c.entered ∨ ref ∈ c.cut

/-- Nothing is left to do for the rule. -/
structure Course.Done (r : Registry) (base : Nat) (c : Course) (ref : RuleRef) : Prop where
  found : r.Concrete ref → ref ∈ c.expansion.found
  parts : ∀ part ∈ r.parts base ref, c.Met part

section Done

variable {r : Registry} {base room : Nat} {c c' c₁ : Course} {ref : RuleRef} {refs : List RuleRef}

theorem Course.Grows.trans (h : c.Grows c₁) (h' : c₁.Grows c') : c.Grows c' where
  found := List.Subset.trans h.found h'.found
  entered := List.Subset.trans h.entered h'.entered
  cut := List.Subset.trans h.cut h'.cut

theorem grows_refl (c : Course) : c.Grows c :=
  ⟨List.Subset.refl _, List.Subset.refl _, List.Subset.refl _⟩

theorem Course.Grows.met (h : c.Grows c') (hr : c.Met ref) : c'.Met ref :=
  hr.imp (fun hr => h.entered hr) fun hr => h.cut hr

theorem Course.Grows.done (h : c.Grows c') (hr : c.Done r base ref) : c'.Done r base ref where
  found hc := h.found (hr.found hc)
  parts part hpart := h.met (hr.parts part hpart)

theorem grows_course : c.Grows (r.course base room c ref) := by
  refine Registry.course_rel (fun _ _ _ => Course.Grows.trans) grows_refl ?_ ?_
  · exact fun c ref => ⟨List.Subset.refl _, List.Subset.refl _, List.subset_cons_self _ _⟩
  · intro c ref e refs h
    refine ⟨?_, List.subset_cons_self _ _, List.Subset.refl _⟩
    cases h with
    | find => exact List.subset_cons_self _ _
    | again | skip | splice | group | follow => exact List.Subset.refl _

theorem grows_foldl (r : Registry) (base room : Nat) (refs : List RuleRef) (c : Course) :
    c.Grows (refs.foldl (r.course base room) c) :=
  List.foldlRecOn (motive := fun c' => c.Grows c') _ _ (grows_refl c)
    fun _ hc _ _ => hc.trans grows_course

/-- A rule that was entered is done once all that was entered after it, and all that was visited
before it, is met. -/
theorem Registry.Entry.done {e : Expansion} (h : r.Entry base c.expansion ref e refs)
    (hc : c.expansion.Tidy r) (hfound : e.found ⊆ c'.expansion.found)
    (hold : ∀ x ∈ c.expansion.visited, c'.Met x) (hnew : ∀ x ∈ refs, c'.Met x) :
    c'.Done r base ref where
  found hconcrete := by
    cases h with
    | again _ hv => exact hfound ((hc.mem_found ref).2 ⟨hv, hconcrete⟩)
    | find => exact hfound List.mem_cons_self
    | skip hnot => exact absurd hconcrete hnot
    | splice hr => exact absurd hconcrete (Registry.not_concrete_of_inclusion hr)
    | group hr => exact absurd hconcrete (Registry.not_concrete_of_group hr)
    | follow hnot => exact absurd hconcrete hnot
  parts part hpart := by
    cases h with
    | again hconcrete | find hconcrete =>
      rw [hconcrete.parts_eq_nil] at hpart
      cases hpart
    | skip _ hp _ hv =>
      rw [hp, List.mem_singleton] at hpart
      exact hold part (hpart ▸ hv)
    | splice _ hp => exact hnew part (hp ▸ hpart)
    | group | follow => exact hnew part hpart

/-- A course from one state to another leaves nothing to do: what it has visited was met, and what it
has entered is done, unless it was entered before. -/
structure Course.Completes (r : Registry) (base : Nat) (c c' : Course) : Prop where
  tidy : c'.expansion.Tidy r
  met : ∀ x ∈ c'.expansion.visited, c'.Met x
  done : ∀ x ∈ c'.entered, x ∈ c.entered ∨ c'.Done r base x

/-- The rules of a list are met one after the other. The first of them may have been marked already
by the include that leads to it. -/
theorem foldl_completes (r : Registry) (base room : Nat) (refs : List RuleRef)
    (ih : ∀ (c : Course) (ref : RuleRef), c.expansion.Tidy r →
      (∀ x ∈ c.expansion.visited, x = ref ∨ c.Met x) →
      (r.course base room c ref).Met ref ∧ c.Completes r base (r.course base room c ref))
    (hc : c.expansion.Tidy r) (hmet : ∀ x ∈ c.expansion.visited, refs.head? = some x ∨ c.Met x) :
    (∀ x ∈ refs, (refs.foldl (r.course base room) c).Met x) ∧
      c.Completes r base (refs.foldl (r.course base room) c) := by
  induction refs generalizing c with
  | nil =>
    have hmet' : ∀ x ∈ c.expansion.visited, c.Met x := fun x hx => by simpa using hmet x hx
    exact ⟨List.forall_mem_nil _, hc, hmet', fun x hx => .inl hx⟩
  | cons ref refs ihrefs =>
    have hfirst : ∀ x ∈ c.expansion.visited, x = ref ∨ c.Met x := fun x hx =>
      (hmet x hx).imp_left fun h => by simpa using h.symm
    obtain ⟨href, h₁⟩ := ih c ref hc hfirst
    obtain ⟨hrest, h₂⟩ := ihrefs h₁.tidy fun x hx => .inr (h₁.met x hx)
    have hgrows := grows_foldl r base room refs (r.course base room c ref)
    refine ⟨?_, h₂.tidy, h₂.met, fun x hx => ?_⟩
    · intro x hx
      rcases List.mem_cons.1 hx with rfl | hx
      · exact hgrows.met href
      · exact hrest x hx
    · rcases h₂.done x hx with hx | hx
      · exact (h₁.done x hx).imp_right hgrows.done
      · exact .inr hx

theorem course_completes (hc : c.expansion.Tidy r)
    (hmet : ∀ x ∈ c.expansion.visited, x = ref ∨ c.Met x) :
    (r.course base room c ref).Met ref ∧ c.Completes r base (r.course base room c ref) := by
  induction room generalizing c ref with
  | zero =>
    have hcut : Course.Met { c with cut := ref :: c.cut } ref := .inr List.mem_cons_self
    refine ⟨hcut, hc, fun x hx => ?_, fun x hx => .inl hx⟩
    rcases hmet x hx with rfl | hx
    · exact hcut
    · exact hx.imp_right (List.mem_cons_of_mem ref)
  | succ room ih =>
    have hentry := r.enter_entry base c.expansion ref
    unfold Registry.course
    generalize (r.enter base c.expansion ref).1 = e at *
    generalize (r.enter base c.expansion ref).2 = refs at *
    have hold : ∀ x ∈ c.expansion.visited, Course.Met ⟨e, ref :: c.entered, c.cut⟩ x := by
      intro x hx
      rcases hmet x hx with rfl | hx
      · exact .inl List.mem_cons_self
      · exact hx.imp_left (List.mem_cons_of_mem ref)
    -- What the rule marks itself is not met yet if it is a target, which is entered next.
    have hmarked : ∀ x ∈ e.visited, refs.head? = some x ∨
        Course.Met ⟨e, ref :: c.entered, c.cut⟩ x := by
      intro x hx
      cases hentry with
      | again | skip | group | follow => exact .inr (hold x hx)
      | find =>
        rcases List.mem_cons.1 hx with rfl | hx
        · exact .inr (.inl List.mem_cons_self)
        · exact .inr (hold x hx)
      | splice =>
        rcases List.mem_cons.1 hx with rfl | hx
        · exact .inl rfl
        · exact .inr (hold x hx)
    obtain ⟨hparts, h⟩ := foldl_completes r base room refs (c := ⟨e, ref :: c.entered, c.cut⟩)
      (fun c ref => ih) (hentry.tidy hc) hmarked
    have hgrows := grows_foldl r base room refs ⟨e, ref :: c.entered, c.cut⟩
    generalize refs.foldl (r.course base room) ⟨e, ref :: c.entered, c.cut⟩ = c' at *
    refine ⟨.inl (hgrows.entered List.mem_cons_self), h.tidy, h.met, fun x hx => ?_⟩
    rcases h.done x hx with hx | hx
    · rcases List.mem_cons.1 hx with rfl | hx
      · exact .inr (hentry.done hc hgrows.found (fun y hy => hgrows.met (hold y hy)) hparts)
      · exact .inl hx
    · exact .inr hx

/-- From a rule that was met, a way past rules that were not cut leads to rules that were entered. -/
theorem Registry.Leads.entered {last : RuleRef} {way : List RuleRef}
    (h : r.Leads base ref way last) (hdone : ∀ x ∈ c.entered, c.Done r base x)
    (hmet : c.Met ref) (hcut : ∀ x ∈ last :: way, x ∉ c.cut) : last ∈ c.entered := by
  induction h with
  | here ref => exact hmet.resolve_right (hcut ref List.mem_cons_self)
  | @on ref next last way hpart _ ih =>
    have hentered : ref ∈ c.entered :=
      hmet.resolve_right (hcut ref (List.mem_cons_of_mem _ List.mem_cons_self))
    refine ih ((hdone ref hentered).parts next hpart) fun x hx => hcut x ?_
    rcases List.mem_cons.1 hx with rfl | hx
    · exact List.mem_cons_self
    · exact List.mem_cons_of_mem _ (List.mem_cons_of_mem _ hx)

end Done

namespace Registry

section Limit

variable {r : Registry} {base limit : Nat} {owner ref start : RuleRef} {way : List RuleRef}

theorem tidy_courseNested (r : Registry) (base limit : Nat) (owner : RuleRef) :
    (r.courseNested base limit owner).expansion.Tidy r :=
  List.foldlRecOn (motive := fun c : Course => c.expansion.Tidy r) _ _ (tidy_start r)
    fun _ hc _ _ => tidy_course hc

/-- A rule that matches something is found if a way leads to it on which no rule was cut. -/
theorem mem_expandNested_of_leads (hstart : start ∈ r.nestedRefs owner)
    (hway : r.Leads base start way ref) (hconcrete : r.Concrete ref)
    (hcut : ∀ x ∈ ref :: way, x ∉ r.cutNested base limit owner) :
    ref ∈ r.expandNested base limit owner := by
  obtain ⟨hmet, h⟩ := foldl_completes r base (limit + 1) (r.nestedRefs owner)
    (c := ⟨.start, [], []⟩) (fun _ _ => course_completes) (tidy_start r)
    (fun x hx => by simp [Expansion.start] at hx)
  have hdone : ∀ x ∈ (r.courseNested base limit owner).entered,
      (r.courseNested base limit owner).Done r base x := fun x hx =>
    (h.done x hx).resolve_left List.not_mem_nil
  have hentered := hway.entered hdone (hmet start hstart) hcut
  rw [expandNested_eq_course, List.mem_reverse]
  exact (hdone ref hentered).found hconcrete

/-- What the course has comes from one of the rules that it begins with. -/
theorem exists_start_of_mem {f : Course → List RuleRef} {P : RuleRef → RuleRef → Prop}
    (hnil : f ⟨.start, [], []⟩ = [])
    (h : ∀ c start, ∀ x ∈ f (r.course base (limit + 1) c start), x ∈ f c ∨ P start x)
    (href : ref ∈ f (r.courseNested base limit owner)) :
    ∃ start ∈ r.nestedRefs owner, P start ref := by
  refine List.foldlRecOn (motive := fun c => ∀ x ∈ f c, ∃ start ∈ r.nestedRefs owner, P start x)
    (r.nestedRefs owner) (r.course base (limit + 1)) ?_ ?_ ref href
  · rw [hnil]
    exact List.forall_mem_nil _
  · intro c hc start hstart x hx
    rcases h c start x hx with hx | hx
    · exact hc x hx
    · exact ⟨start, hstart, hx⟩

/-- What is found is nested in the owner no deeper than the limit. -/
theorem exists_leads_of_mem_expandNested (h : ref ∈ r.expandNested base limit owner) :
    ∃ start ∈ r.nestedRefs owner, ∃ way, r.Leads base start way ref ∧ way.length ≤ limit := by
  rw [expandNested_eq_course, List.mem_reverse] at h
  refine exists_start_of_mem (f := fun c => c.expansion.found)
    (P := fun start x => ∃ way, r.Leads base start way x ∧ way.length ≤ limit) rfl
    (fun c start x hx => ?_) h
  rcases mem_found_course hx with hx | ⟨way, hway, hlen⟩
  · exact .inl hx
  · exact .inr ⟨way, hway, Nat.le_of_lt_succ hlen⟩

theorem exists_leads_of_mem_cutNested (h : ref ∈ r.cutNested base limit owner) :
    ∃ start ∈ r.nestedRefs owner, ∃ way, r.Leads base start way ref ∧ way.length = limit + 1 :=
  exists_start_of_mem (f := Course.cut) rfl (fun _ _ _ => mem_cut_course) h

/-- The limit costs only what lies behind rules that some way leads to beyond it: a rule is found if
there is a way to it on which no rule was cut. -/
theorem found_unless_cut (r : Registry) (base limit : Nat) (owner : RuleRef) :
    (∀ ref ∈ r.cutNested base limit owner, ∃ start ∈ r.nestedRefs owner, ∃ way,
      r.Leads base start way ref ∧ way.length = limit + 1) ∧
    ∀ start ∈ r.nestedRefs owner, ∀ way ref, r.Leads base start way ref → r.Concrete ref →
      (∀ x ∈ ref :: way, x ∉ r.cutNested base limit owner) →
      ref ∈ r.expandNested base limit owner :=
  ⟨fun _ => exists_leads_of_mem_cutNested,
    fun _ hstart _ _ hway hconcrete => mem_expandNested_of_leads hstart hway hconcrete⟩

/-- A grammar with a set of rules that is included from afar first and then from nearby. -/
def detourGrammar : Descriptor :=
  { Descriptor.empty with
    scopeName := "source.detour"
    patterns := [
      { RuleSpec.empty with reference := some "#far" },
      { RuleSpec.empty with reference := some "#near" },
      { RuleSpec.empty with reference := some "#digits" }]
    repository := [
      ("digits", { RuleSpec.empty with
        patterns := some [{ RuleSpec.empty with matchPattern := some "[0-9]" }] }),
      ("far", { RuleSpec.empty with
        patterns := some [{ RuleSpec.empty with reference := some "#near" }] }),
      ("near", { RuleSpec.empty with
        patterns := some [{ RuleSpec.empty with matchPattern := some "x" }] })] }

theorem concrete_iff : r.Concrete ref ↔ ((r.rule? ref).bind (·.scanPattern?)).isSome = true := by
  simp [Concrete, Option.isSome_iff_exists, Option.bind_eq_some_iff, exists_comm]

/-- The digits are found beside a set that is cut. -/
theorem digits_found_beside_cut :
    ∃ r, empty.register [detourGrammar] = .ok r ∧ r.cutNested 0 2 ⟨0, 9⟩ = [⟨0, 5⟩] ∧
      ⟨0, 8⟩ ∈ r.nestedRefs ⟨0, 9⟩ ∧ r.Leads 0 ⟨0, 8⟩ [⟨0, 8⟩, ⟨0, 1⟩] ⟨0, 0⟩ ∧
      r.Concrete ⟨0, 0⟩ ∧ ⟨0, 0⟩ ∈ r.expandNested 0 2 ⟨0, 9⟩ := by
  have hrun : (empty.register [detourGrammar]).toOption.any (fun r =>
      r.cutNested 0 2 ⟨0, 9⟩ == [⟨0, 5⟩] && ((r.nestedRefs ⟨0, 9⟩).contains ⟨0, 8⟩ &&
        ((r.parts 0 ⟨0, 8⟩).contains ⟨0, 1⟩ && ((r.parts 0 ⟨0, 1⟩).contains ⟨0, 0⟩ &&
          ((r.rule? ⟨0, 0⟩).bind (·.scanPattern?)).isSome)))) = true := by decide +kernel
  obtain ⟨r, hr, hrun⟩ := exists_ok_of_any hrun
  simp only [Bool.and_eq_true, beq_iff_eq, List.contains_iff_mem, ← concrete_iff] at hrun
  obtain ⟨hcut, hstart, hfirst, hsecond, hconcrete⟩ := hrun
  have hway : r.Leads 0 ⟨0, 8⟩ [⟨0, 8⟩, ⟨0, 1⟩] ⟨0, 0⟩ := .on hfirst (.on hsecond (.here _))
  refine ⟨r, hr, hcut, hstart, hway, hconcrete,
    (found_unless_cut r 0 2 ⟨0, 9⟩).2 _ hstart _ _ hway hconcrete ?_⟩
  rw [hcut]
  decide

/-- A set that is met too deep first is lost, though a way within the limit leads to its rule. -/
theorem short_way_lost :
    ∃ r, empty.register [detourGrammar] = .ok r ∧
      ∃ start ∈ r.nestedRefs ⟨0, 9⟩, ∃ way ref, r.Leads 0 start way ref ∧ way.length ≤ 2 ∧
        r.Concrete ref ∧ ref ∉ r.expandNested 0 2 ⟨0, 9⟩ := by
  have hrun : (empty.register [detourGrammar]).toOption.any (fun r =>
      !(r.expandNested 0 2 ⟨0, 9⟩).contains ⟨0, 4⟩ && ((r.nestedRefs ⟨0, 9⟩).contains ⟨0, 7⟩ &&
        ((r.parts 0 ⟨0, 7⟩).contains ⟨0, 5⟩ && ((r.parts 0 ⟨0, 5⟩).contains ⟨0, 4⟩ &&
          ((r.rule? ⟨0, 4⟩).bind (·.scanPattern?)).isSome)))) = true := by decide +kernel
  obtain ⟨r, hr, hrun⟩ := exists_ok_of_any hrun
  simp only [Bool.and_eq_true, Bool.not_eq_true', List.contains_iff_mem, ← concrete_iff] at hrun
  obtain ⟨hlost, hstart, hfirst, hsecond, hconcrete⟩ := hrun
  exact ⟨r, hr, _, hstart, _, _, .on hfirst (.on hsecond (.here _)), Nat.le_refl 2, hconcrete,
    by simpa using hlost⟩

end Limit

end Registry

end Scopelight
