import Scopelight.Proofs.Tiles

/-!
# Lines and their terminators

A line is a content without a line feed and one of four terminators, and the content is what is left
without the terminator (`stripTerminator_append`). Writing a carriage return before each line feed
changes the terminators of the lines of a document and nothing else (`cutLines_crlf`,
`stripTerminator_crlf`).
-/

namespace Scopelight.Text

/-- What a line can end with. -/
def terminators : List (List Char) := [[], ['\n'], ['\r', '\n'], ['\r']]

/-- The text with a carriage return before each line feed. -/
def crlf (cs : List Char) : List Char := cs.flatMap fun c => if c = '\n' then ['\r', '\n'] else [c]

section Terminator

variable {cs : List Char}

/-- A content that a terminator cannot run into is what is left without the terminator. -/
theorem stripTerminator_append (hr : cs.getLast? ≠ some '\r') (hn : cs.getLast? ≠ some '\n')
    {e : List Char} (he : e ∈ terminators) : stripTerminator (cs ++ e) = cs := by
  obtain ⟨rs, rfl⟩ : ∃ rs, cs = rs.reverse := ⟨cs.reverse, cs.reverse_reverse.symm⟩
  rw [List.getLast?_reverse] at hr hn
  unfold stripTerminator
  rw [List.reverse_append, List.reverse_reverse]
  simp only [terminators, List.mem_cons, List.not_mem_nil, or_false] at he
  rcases rs with _ | ⟨c, rs⟩
  · rcases he with rfl | rfl | rfl | rfl <;> rfl
  · simp only [List.head?_cons, ne_eq, Option.some.injEq] at hr hn
    rcases he with rfl | rfl | rfl | rfl <;> simp [hr, hn]

theorem crlf_cons (c : Char) (cs : List Char) :
    crlf (c :: cs) = (if c = '\n' then ['\r', '\n'] else [c]) ++ crlf cs := List.flatMap_cons

theorem crlf_append (cs ds : List Char) : crlf (cs ++ ds) = crlf cs ++ crlf ds :=
  List.flatMap_append

theorem crlf_of_not_mem (h : '\n' ∉ cs) : crlf cs = cs := by
  induction cs with
  | nil => rfl
  | cons c cs ih =>
    rw [List.mem_cons, not_or] at h
    rw [crlf_cons, if_neg (Ne.symm h.1), ih h.2, List.singleton_append]

theorem cutLines_crlf (cs : List Char) : cutLines (crlf cs) = (cutLines cs).map crlf := by
  induction cs with
  | nil => rfl
  | cons c cs ih =>
    by_cases hc : c = '\n'
    · subst hc
      simp [crlf_cons, cutLines, ih, crlf_of_not_mem]
    · simp only [crlf_cons, if_neg hc, List.singleton_append, cutLines, ih]
      rcases cutLines cs with _ | ⟨line, lines⟩
      · simp [crlf_cons, hc, crlf_of_not_mem]
      · simp [crlf_cons, hc]

theorem eq_of_mem_cutLines {line : List Char} (h : line ∈ cutLines cs) :
    ∃ content, '\n' ∉ content ∧ (line = content ∨ line = content ++ ['\n']) := by
  induction cs generalizing line with
  | nil => simp [cutLines] at h
  | cons c cs ih =>
    unfold cutLines at h
    split_ifs at h with hc
    · rcases List.mem_cons.1 h with rfl | h
      · exact ⟨[], List.not_mem_nil, .inr (by simp [hc])⟩
      · exact ih h
    · split at h
      · obtain rfl := List.mem_singleton.1 h
        exact ⟨[c], by simpa using Ne.symm hc, .inl rfl⟩
      · rename_i first lines hlines
        rcases List.mem_cons.1 h with rfl | h
        · obtain ⟨content, hcontent, hfirst⟩ := ih (hlines ▸ List.mem_cons_self)
          refine ⟨c :: content, by simp [Ne.symm hc, hcontent], ?_⟩
          rcases hfirst with rfl | rfl
          · exact .inl rfl
          · exact .inr rfl
        · exact ih (hlines ▸ List.mem_cons_of_mem _ h)

theorem not_mem_of_mem_cutLines {line : List Char} {c : Char} (hc : c ∉ cs)
    (h : line ∈ cutLines cs) : c ∉ line := by
  rw [← flatten_cutLines cs] at hc
  exact fun hmem => hc (List.mem_flatten.2 ⟨line, h, hmem⟩)

theorem stripTerminator_crlf (hr : '\r' ∉ cs) {line : List Char} (h : line ∈ cutLines cs) :
    stripTerminator (crlf line) = stripTerminator line := by
  have hline := not_mem_of_mem_cutLines hr h
  obtain ⟨content, hcontent, hend⟩ := eq_of_mem_cutLines h
  have hplain : ∀ c, c ∉ content → content.getLast? ≠ some c :=
    fun c hc hlast => hc (List.mem_of_getLast? hlast)
  have hn := hplain _ hcontent
  rcases hend with rfl | rfl
  · rw [crlf_of_not_mem hcontent]
  · have hr := hplain '\r' fun hmem => hline (List.mem_append_left _ hmem)
    rw [crlf_append, crlf_of_not_mem hcontent]
    exact (stripTerminator_append hr hn (by simp [terminators, crlf])).trans
      (stripTerminator_append hr hn (by simp [terminators])).symm

end Terminator

theorem map_text_withOffsets (offset : Nat) (pieces : List (List Char)) :
    (withOffsets offset pieces).map Line.text = pieces := by
  induction pieces generalizing offset with
  | nil => rfl
  | cons piece pieces ih => simp [withOffsets, ih]

theorem map_content_linesOf (doc : String) :
    (linesOf doc).map Line.content = (cutLines doc.toList).map stripTerminator := by
  unfold linesOf
  rw [← map_text_withOffsets 0 (cutLines doc.toList), List.map_map, map_text_withOffsets]
  rfl

theorem map_content_crlf {doc : String} (hr : '\r' ∉ doc.toList) :
    (linesOf (String.ofList (crlf doc.toList))).map Line.content =
      (linesOf doc).map Line.content := by
  rw [map_content_linesOf, map_content_linesOf, String.toList_ofList, cutLines_crlf, List.map_map]
  exact List.map_congr_left fun line h => stripTerminator_crlf hr h

end Scopelight.Text
