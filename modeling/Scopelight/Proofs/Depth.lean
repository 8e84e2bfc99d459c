import Mathlib.Data.Finset.Card
import Scopelight.Proofs.Course
import Scopelight.Proofs.Forest
import Scopelight.Proofs.Registration
import Scopelight.Proofs.Termination

/-!
# How deep an expansion goes

An expansion follows includes, which may lead anywhere, and enters groups, whose rules stand before
them in the table. A set of rules is included only once. So between two includes of sets that are new
there is room for as many groups as a table has rules, and there are no more such includes than rules:
an expansion ends at `Registry.depthBound` levels by itself (`cutNested_eq_nil`), and a limit
beyond that changes nothing (`expandNested_of_depthBound_le`).
-/

namespace Scopelight

/-- How many rules were not visited. -/
def Expansion.unvisited (r : Registry) (e : Expansion) : Nat :=
  (r.refs.toFinset \ e.visited.toFinset).card

namespace Registry

/-- How many levels a rule needs before the next include of a set. -/
def levels (r : Registry) (ref : RuleRef) : Nat :=
  match r.rule? ref with
  | some (.group _) => ref.rule + 2
  | some (.inclusion _ _) => 1
  | _ => 0

/-- More levels than any rule needs. -/
def levelBound (r : Registry) : Nat := r.refs.length + 2

/-- The number of levels at which all expansions end. -/
def depthBound (r : Registry) : Nat := (r.refs.length + 1) * r.levelBound

section Levels

variable {r : Registry} {base room : Nat} {e e' : Expansion} {c : Course} {ref : RuleRef}
  {refs : List RuleRef}

theorem Built.nested_lt {rule : Rule} (h : r.Built) (hr : r.rule? ref = some rule) :
    ∀ k ∈ rule.nested, k < ref.rule := by
  obtain ⟨g, hg, hrule⟩ := Option.bind_eq_some_iff.1 hr
  obtain ⟨d, hd⟩ := h.compiled hg
  exact Grammar.nested_lt hd hrule

theorem rule_lt_length {rule : Rule} (h : r.rule? ref = some rule) :
    ref.rule < r.refs.length := by
  obtain ⟨g, hg, hrule⟩ := exists_grammar_of_rule h
  have hsize : ref.rule < g.rules.size := (List.getElem?_eq_some_iff.1 hrule).1
  -- The rules before this one in its table are rules of the registry as well.
  have hsub : (List.range (ref.rule + 1)).map (RuleRef.mk ref.grammar) ⊆ r.refs := by
    intro x hx
    obtain ⟨k, hk, rfl⟩ := List.mem_map.1 hx
    have hlt : k < g.rules.size := Nat.lt_of_le_of_lt (Nat.le_of_lt_succ (List.mem_range.1 hk)) hsize
    refine List.mem_flatMap.2 ⟨(g, ref.grammar), List.mem_zipIdx_iff_getElem?.2 hg, ?_⟩
    exact List.mem_map.2 ⟨k, List.mem_range.2 hlt, rfl⟩
  have hnodup : ((List.range (ref.rule + 1)).map (RuleRef.mk ref.grammar)).Nodup := by
    refine List.nodup_range.map fun k k' hk => ?_
    cases hk
    rfl
  have hle := hnodup.length_le_of_subset hsub
  rwa [List.length_map, List.length_range] at hle

theorem levels_lt (r : Registry) (ref : RuleRef) : r.levels ref < r.levelBound := by
  unfold levels levelBound
  split
  · rename_i ids hr
    have hlt := Nat.add_lt_add_right (rule_lt_length hr) 2
    exact hlt
  · omega
  · omega

theorem levels_le (r : Registry) (ref : RuleRef) : r.levels ref ≤ ref.rule + 2 := by
  unfold levels
  split <;> omega

theorem levels_eq_zero (h : r.splices ref = false) : r.levels ref = 0 := by
  unfold levels
  unfold splices at h
  rcases hr : r.rule? ref with _ | rule
  · rfl
  · rw [hr] at h
    cases rule <;> first | rfl | cases h

theorem mem_refs_of_splices (h : r.splices ref = true) : ref ∈ r.refs := by
  obtain ⟨hrule, -⟩ := splices_iff.1 h
  obtain ⟨rule, hr⟩ := Option.isSome_iff_exists.1 hrule
  exact mem_refs hr

theorem unvisited_le (h : e.visited ⊆ e'.visited) : e'.unvisited r ≤ e.unvisited r := by
  refine Finset.card_le_card (Finset.sdiff_subset_sdiff (Finset.Subset.refl _) ?_)
  exact fun x hx => List.mem_toFinset.2 (h (List.mem_toFinset.1 hx))

theorem unvisited_cons_lt (hmem : ref ∈ r.refs) (hnew : ref ∉ e.visited) :
    Expansion.unvisited r { e with visited := ref :: e.visited } < e.unvisited r := by
  unfold Expansion.unvisited
  rw [List.toFinset_cons, Finset.sdiff_insert]
  refine Finset.card_erase_lt_of_mem ?_
  rw [Finset.mem_sdiff, List.mem_toFinset, List.mem_toFinset]
  exact ⟨hmem, hnew⟩

theorem unvisited_le_length (r : Registry) (e : Expansion) : e.unvisited r ≤ r.refs.length :=
  (Finset.card_le_card Finset.sdiff_subset).trans r.refs.toFinset_card_le

theorem Entry.visited_subset (h : r.Entry base e ref e' refs) : e.visited ⊆ e'.visited := by
  cases h with
  | find | splice => exact List.subset_cons_self _ _
  | again | skip | group | follow => exact List.Subset.refl _

theorem visited_course : c.expansion.visited ⊆ (r.course base room c ref).expansion.visited :=
  course_rel (R := fun c c' => c.expansion.visited ⊆ c'.expansion.visited)
    (fun _ _ _ => List.Subset.trans) (fun _ => List.Subset.refl _)
    (fun _ _ => List.Subset.refl _) fun _ _ _ _ h => h.visited_subset

/-- The levels that may be needed from a rule on. -/
def need (r : Registry) (e : Expansion) (ref : RuleRef) : Nat :=
  e.unvisited r * r.levelBound + r.levels ref

theorem Entry.need_lt (hr : r.Built) (h : r.Entry base e ref e' refs) :
    ∀ part ∈ refs, r.need e' part < r.need e ref := by
  intro part hpart
  unfold need
  cases h with
  | again | find | skip => cases hpart
  | @splice t _ _ _ _ ht hv =>
    obtain rfl := List.mem_singleton.1 hpart
    have hlt := unvisited_cons_lt (e := e) (mem_refs_of_splices ht) hv
    have hmul := Nat.mul_le_mul_right r.levelBound (Nat.succ_le_of_lt hlt)
    have hpart := r.levels_lt part
    rw [Nat.succ_mul] at hmul
    omega
  | group hgroup =>
    have hmem := hpart
    rw [parts, hgroup] at hmem
    obtain ⟨k, hk, rfl⟩ := List.mem_map.1 hmem
    have hlt := Nat.succ_le_of_lt (hr.nested_lt hgroup k hk)
    have hle : r.levels ⟨ref.grammar, k⟩ ≤ k + 2 := r.levels_le ⟨ref.grammar, k⟩
    have hlevels : r.levels ref = ref.rule + 2 := by rw [levels, hgroup]
    omega
  | follow _ hp =>
    obtain ⟨hs, target, repository, hinclusion⟩ := hp part hpart
    have hlevels : r.levels ref = 1 := by rw [levels, hinclusion]
    rw [levels_eq_zero hs]
    omega

/-- With room for all levels that may be needed nothing is cut. -/
theorem cut_course (hr : r.Built) (h : r.need c.expansion ref < room) :
    (r.course base room c ref).cut = c.cut := by
  induction room generalizing c ref with
  | zero => cases h
  | succ room ih =>
    have hentry := r.enter_entry base c.expansion ref
    unfold course
    generalize (r.enter base c.expansion ref).1 = e at *
    generalize (r.enter base c.expansion ref).2 = refs at *
    suffices hfold : (refs.foldl (r.course base room) ⟨e, ref :: c.entered, c.cut⟩).cut = c.cut ∧
        e.visited ⊆ (refs.foldl (r.course base room)
          ⟨e, ref :: c.entered, c.cut⟩).expansion.visited from hfold.1
    refine List.foldlRecOn (motive := fun c' : Course =>
      c'.cut = c.cut ∧ e.visited ⊆ c'.expansion.visited) _ _ ⟨rfl, List.Subset.refl _⟩ ?_
    rintro c' ⟨hcut, hsub⟩ part hpart
    refine ⟨?_, List.Subset.trans hsub visited_course⟩
    rw [ih, hcut]
    have hlt := hentry.need_lt hr part hpart
    have hle := Nat.mul_le_mul_right r.levelBound (unvisited_le (r := r) hsub)
    unfold need at *
    omega

theorem need_lt_depthBound (r : Registry) (e : Expansion) (ref : RuleRef) :
    r.need e ref < r.depthBound := by
  have hmul := Nat.mul_le_mul_right r.levelBound (unvisited_le_length r e)
  have hlt := r.levels_lt ref
  unfold need depthBound
  rw [Nat.succ_mul]
  omega

theorem foldl_course_add {more : Nat}
    (ih : ∀ (c : Course) (ref : RuleRef), (r.course base room c ref).cut = [] →
      r.course base (room + more) c ref = r.course base room c ref)
    (h : (refs.foldl (r.course base room) c).cut = []) :
    refs.foldl (r.course base (room + more)) c = refs.foldl (r.course base room) c := by
  induction refs generalizing c with
  | nil => rfl
  | cons ref refs ihrefs =>
    have hgrows := grows_foldl r base room refs (r.course base room c ref)
    have hfirst : (r.course base room c ref).cut = [] := List.subset_nil.1 (h ▸ hgrows.cut)
    rw [List.foldl_cons, List.foldl_cons, ih c ref hfirst]
    exact ihrefs h

/-- A course in which nothing is cut is the same with more room. -/
theorem course_add (more : Nat) (h : (r.course base room c ref).cut = []) :
    r.course base (room + more) c ref = r.course base room c ref := by
  induction room generalizing c ref with
  | zero => cases h
  | succ room ih =>
    rw [Nat.succ_add]
    unfold course at h ⊢
    exact foldl_course_add (fun c ref => ih) h

end Levels

section Limit

variable {r : Registry} {base limit : Nat} {owner : RuleRef}

theorem cutNested_eq_nil (hr : r.Built) (h : r.depthBound ≤ limit) :
    r.cutNested base limit owner = [] := by
  unfold cutNested courseNested
  refine List.foldlRecOn (motive := fun c : Course => c.cut = []) _ _ rfl fun c hc start _ => ?_
  have hlt := r.need_lt_depthBound c.expansion start
  rw [cut_course hr (by omega), hc]

theorem expandNested_add (more : Nat) (h : r.cutNested base limit owner = []) :
    r.expandNested base (limit + more) owner = r.expandNested base limit owner := by
  have hcourse : r.courseNested base (limit + more) owner = r.courseNested base limit owner := by
    unfold courseNested
    rw [Nat.add_right_comm]
    exact foldl_course_add (fun _ _ => course_add more) h
  rw [expandNested_eq_course, hcourse, ← expandNested_eq_course]

theorem expandNested_of_depthBound_le (hr : r.Built) (h : r.depthBound ≤ limit) :
    r.expandNested base limit owner = r.expandNested base r.depthBound owner := by
  obtain ⟨more, rfl⟩ := Nat.exists_eq_add_of_le h
  exact expandNested_add more (cutNested_eq_nil hr (Nat.le_refl _))

end Limit

end Registry

end Scopelight
