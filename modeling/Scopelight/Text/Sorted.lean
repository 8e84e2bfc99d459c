/-!
# Sorted texts

Lists of texts in order and without repetition.
-/

namespace Scopelight.Text

/-- Put a text into a sorted list that need not have it yet. -/
def insertSorted (s : String) : List String → List String
  | [] => [s]
  | t :: ts => if s < t then s :: t :: ts else if s = t then t :: ts else t :: insertSorted s ts

@[simp]
theorem mem_insertSorted {s t : String} {ts : List String} :
    s ∈ insertSorted t ts ↔ s = t ∨ s ∈ ts := by
  induction ts with
  | nil => simp [insertSorted]
  | cons u us ih =>
    by_cases hlt : t < u
    · rw [insertSorted, if_pos hlt, List.mem_cons]
    by_cases heq : t = u
    · rw [insertSorted, if_neg hlt, if_pos heq, heq, List.mem_cons, or_self_left]
    · rw [insertSorted, if_neg hlt, if_neg heq, List.mem_cons, ih, List.mem_cons, or_left_comm]

theorem mem_foldl_insertSorted {s : String} {ss ts : List String} :
    s ∈ ss.foldl (fun ts s => insertSorted s ts) ts ↔ s ∈ ss ∨ s ∈ ts := by
  induction ss generalizing ts with
  | nil => simp
  | cons t ss ih => simp [ih, or_assoc, or_left_comm]

theorem pairwise_insertSorted (s : String) {ts : List String} (h : ts.Pairwise (· < ·)) :
    (insertSorted s ts).Pairwise (· < ·) := by
  induction ts with
  | nil => exact List.pairwise_singleton _ s
  | cons t ts ih =>
    obtain ⟨hfirst, hrest⟩ := List.pairwise_cons.1 h
    by_cases hlt : s < t
    · rw [insertSorted, if_pos hlt]
      refine List.pairwise_cons.2 ⟨fun u hu => ?_, h⟩
      rcases List.mem_cons.1 hu with rfl | hu
      · exact hlt
      · exact String.lt_trans hlt (hfirst u hu)
    by_cases heq : s = t
    · rwa [insertSorted, if_neg hlt, if_pos heq]
    · rw [insertSorted, if_neg hlt, if_neg heq]
      refine List.pairwise_cons.2 ⟨fun u hu => ?_, ih hrest⟩
      rcases mem_insertSorted.1 hu with rfl | hu
      · exact Std.lt_of_le_of_ne (String.not_lt.1 hlt) (Ne.symm heq)
      · exact hfirst u hu

/-- The texts of a list in order, each once. -/
def sorted (ss : List String) : List String := ss.foldl (fun ts s => insertSorted s ts) []

@[simp]
theorem mem_sorted {s : String} {ss : List String} : s ∈ sorted ss ↔ s ∈ ss := by
  simp [sorted, mem_foldl_insertSorted]

theorem pairwise_sorted (ss : List String) : (sorted ss).Pairwise (· < ·) :=
  List.foldlRecOn ss _ List.Pairwise.nil fun _ hts s _ => pairwise_insertSorted s hts

end Scopelight.Text
