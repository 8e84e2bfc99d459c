import Scopelight.Proofs.Locality

/-!
# Lines partition a document

The lines of a document are its text cut behind every line feed and nowhere else, each with the
number of bytes before it. A line falls into its content and the longest terminator that it ends with
(`append_terminator`, `suffix_terminator`). This says all about the lines: no others partition the
document (`linesOf_partition`).
-/

namespace Scopelight.Text

/-- The lines make up the text. Each of them knows where it begins, is closed by the first line feed
in it and falls into content and terminator. -/
structure IsPartition (cs : List Char) (lines : List Line) : Prop where
  whole : (lines.map Line.text).flatten = cs
  offset : ∀ before line after, lines = before ++ line :: after →
    line.offset = byteLength (before.map Line.text).flatten
  nonempty : ∀ line ∈ lines, line.text ≠ []
  /-- Only the last line may have no line feed. -/
  lineFeed : ∀ before line after, lines = before ++ line :: after → ∃ body, '\n' ∉ body ∧
    (line.text = body ++ ['\n'] ∨ line.text = body ∧ after = [])
  content : ∀ line ∈ lines, line.content ++ line.terminator = line.text
  terminator : ∀ line ∈ lines, line.terminator ∈ terminators
  longest : ∀ line ∈ lines, ∀ e ∈ terminators, e <:+ line.text → e <:+ line.terminator
  /-- Only the last line may have a terminator without a line feed. -/
  last : ∀ before line after, lines = before ++ line :: after →
    line.terminator = [] ∨ line.terminator = ['\r'] → after = []
  empty : lines = [] ↔ cs = []

/-! ## Content and terminator -/

/-- A text is split before the longest terminator that it ends with. -/
theorem stripTerminator_split (cs : List Char) : ∃ e ∈ terminators, stripTerminator cs ++ e = cs ∧
    ∀ e' ∈ terminators, e' <:+ cs → e' <:+ e := by
  have hsplit {e : List Char} (rest : List Char) (h : cs.reverse = e.reverse ++ rest) :
      rest.reverse ++ e = cs := by
    rw [← List.reverse_reverse cs, h, List.reverse_append, List.reverse_reverse]
  -- What a text ends with is what its reverse begins with.
  have hlongest {e : List Char} (h : ∀ e' ∈ terminators, e'.reverse <+: cs.reverse → e' <:+ e) :
      ∀ e' ∈ terminators, e' <:+ cs → e' <:+ e :=
    fun e' he' hsuffix => h e' he' (List.reverse_prefix.2 hsuffix)
  unfold stripTerminator
  split
  · rename_i rest h
    refine ⟨['\r', '\n'], by decide, hsplit rest h, hlongest ?_⟩
    simp [terminators, h, List.cons_prefix_cons, List.suffix_cons_iff]
  · rename_i rest hne h
    refine ⟨['\n'], by decide, hsplit rest h, hlongest ?_⟩
    have hcr : ¬ ['\r'] <+: rest := by
      rintro ⟨rest', rfl⟩
      exact hne rest' rfl
    simp [terminators, h, List.cons_prefix_cons, List.suffix_cons_iff, hcr]
  · rename_i rest h
    refine ⟨['\r'], by decide, hsplit rest h, hlongest ?_⟩
    simp [terminators, h, List.cons_prefix_cons]
  · rename_i hcrlf hlf hcr
    refine ⟨[], by decide, List.append_nil cs, ?_⟩
    have hends {e : List Char} (h : ∀ rest, cs.reverse ≠ e.reverse ++ rest) : ¬ e <:+ cs := by
      rintro ⟨rest, rfl⟩
      exact h rest.reverse (List.reverse_append)
    have hlf' : ¬ ['\n'] <:+ cs := hends hlf
    have hcr' : ¬ ['\r'] <:+ cs := hends hcr
    have hcrlf' : ¬ ['\r', '\n'] <:+ cs := hends hcrlf
    simp [terminators, hlf', hcr', hcrlf']

namespace Line

variable (l : Line)

theorem append_terminator : l.content ++ l.terminator = l.text :=
  List.prefix_iff_eq_append.1 (stripTerminator_isPrefix l.text)

theorem terminator_eq {e : List Char} (h : stripTerminator l.text ++ e = l.text) :
    l.terminator = e :=
  List.append_cancel_left (l.append_terminator.trans h.symm)

theorem terminator_mem : l.terminator ∈ terminators := by
  obtain ⟨e, he, hsplit, -⟩ := stripTerminator_split l.text
  rwa [l.terminator_eq hsplit]

theorem suffix_terminator {e : List Char} (he : e ∈ terminators) (h : e <:+ l.text) :
    e <:+ l.terminator := by
  obtain ⟨e', -, hsplit, hlongest⟩ := stripTerminator_split l.text
  rw [l.terminator_eq hsplit]
  exact hlongest e he h

variable {l}

theorem no_lineFeed (h : l.terminator = [] ∨ l.terminator = ['\r']) : ¬ ['\n'] <:+ l.text := by
  intro hsuffix
  have := l.suffix_terminator (by decide) hsuffix
  rcases h with h | h <;> rw [h] at this <;> revert this <;> decide

end Line

/-! ## Cuts -/

section Cuts

variable {cs body : List Char}

theorem ne_nil_of_mem_cutLines {piece : List Char} (h : piece ∈ cutLines cs) : piece ≠ [] := by
  fun_induction cutLines cs with
  | case1 => cases h
  | case2 cs ih =>
    rcases List.mem_cons.1 h with rfl | h
    · exact List.cons_ne_nil _ _
    · exact ih h
  | case3 c cs hc hnil => exact List.mem_singleton.1 h ▸ List.cons_ne_nil _ _
  | case4 c cs hc line lines hlines ih =>
    rcases List.mem_cons.1 h with rfl | h
    · exact List.cons_ne_nil _ _
    · exact ih (hlines ▸ List.mem_cons_of_mem _ h)

theorem lineFeed_of_cutLines {before after : List (List Char)} {piece : List Char}
    (h : cutLines cs = before ++ piece :: after) :
    ∃ body, '\n' ∉ body ∧ (piece = body ++ ['\n'] ∨ piece = body ∧ after = []) := by
  fun_induction cutLines cs generalizing before piece with
  | case1 => simp at h
  | case2 cs ih =>
    rcases before with _ | ⟨b, before⟩
    · cases h
      exact ⟨[], List.not_mem_nil, .inl rfl⟩
    · exact ih (List.cons.inj h).2
  | case3 c cs hc hnil =>
    rcases before with _ | ⟨b, before⟩
    · cases h
      exact ⟨[c], by simpa using Ne.symm hc, .inr ⟨rfl, rfl⟩⟩
    · simp at h
  | case4 c cs hc line lines hlines ih =>
    rcases before with _ | ⟨b, before⟩
    · cases h
      have hfirst : cutLines cs = [] ++ line :: after := hlines
      obtain ⟨body, hbody, hpiece⟩ := ih hfirst
      refine ⟨c :: body, by simp [Ne.symm hc, hbody], ?_⟩
      rcases hpiece with rfl | ⟨rfl, hlast⟩
      · exact .inl rfl
      · exact .inr ⟨rfl, hlast⟩
    · have hrest : cutLines cs = (line :: before) ++ piece :: after :=
        hlines.trans (congrArg _ (List.cons.inj h).2)
      exact ih hrest

theorem cutLines_of_not_mem (h : '\n' ∉ cs) (hne : cs ≠ []) : cutLines cs = [cs] := by
  induction cs with
  | nil => exact absurd rfl hne
  | cons c cs ih =>
    rw [List.mem_cons, not_or] at h
    rw [cutLines, if_neg (Ne.symm h.1)]
    rcases cs with _ | ⟨d, cs⟩
    · rfl
    · rw [ih h.2 (List.cons_ne_nil d cs)]

theorem cutLines_line (h : '\n' ∉ body) : cutLines (body ++ ['\n']) = [body ++ ['\n']] := by
  induction body with
  | nil => rfl
  | cons c body ih =>
    rw [List.mem_cons, not_or] at h
    rw [List.cons_append, cutLines, if_neg (Ne.symm h.1), ih h.2]

/-- Pieces of which each but the last is closed by its only line feed are those of their text. -/
theorem cutLines_flatten {pieces : List (List Char)} (hne : ∀ piece ∈ pieces, piece ≠ [])
    (h : ∀ before piece after, pieces = before ++ piece :: after → ∃ body, '\n' ∉ body ∧
      (piece = body ++ ['\n'] ∨ piece = body ∧ after = [])) :
    cutLines pieces.flatten = pieces := by
  induction pieces with
  | nil => rfl
  | cons piece pieces ih =>
    have hrest := ih (fun p hp => hne p (List.mem_cons_of_mem _ hp))
      fun before p after hp => h (piece :: before) p after (by rw [hp, List.cons_append])
    obtain ⟨body, hbody, rfl | ⟨rfl, rfl⟩⟩ := h [] piece pieces rfl
    · rw [List.flatten_cons, cutLines_append (.inr List.getLast?_concat), cutLines_line hbody, hrest]
      rfl
    · rw [List.flatten_cons, List.flatten_nil, List.append_nil]
      exact cutLines_of_not_mem hbody (hne _ List.mem_cons_self)

end Cuts

/-! ## Offsets -/

theorem offset_of_withOffsets {offset : Nat} {pieces : List (List Char)} {before after : List Line}
    {line : Line} (h : withOffsets offset pieces = before ++ line :: after) :
    line.offset = offset + byteLength (before.map Line.text).flatten := by
  induction pieces generalizing offset before with
  | nil => simp [withOffsets] at h
  | cons piece pieces ih =>
    rcases before with _ | ⟨b, before⟩
    · cases h
      rfl
    · obtain ⟨rfl, hrest⟩ := List.cons.inj h
      rw [ih hrest, List.map_cons, List.flatten_cons, byteLength_append, Nat.add_assoc]

theorem withOffsets_map_text {offset : Nat} {lines : List Line}
    (h : ∀ before line after, lines = before ++ line :: after →
      line.offset = offset + byteLength (before.map Line.text).flatten) :
    withOffsets offset (lines.map Line.text) = lines := by
  induction lines generalizing offset with
  | nil => rfl
  | cons line lines ih =>
    have hoffset : line.offset = offset := h [] line lines rfl
    rw [List.map_cons, withOffsets, ← hoffset, ih fun before l after hl => ?_]
    rw [h (line :: before) l after (by rw [hl, List.cons_append]), List.map_cons, List.flatten_cons,
      byteLength_append, hoffset, Nat.add_assoc]

/-- The lines of a document partition it, and nothing else does. -/
theorem linesOf_partition (doc : String) : IsPartition doc.toList (linesOf doc) ∧
    ∀ lines, IsPartition doc.toList lines → lines = linesOf doc := by
  have htexts : (linesOf doc).map Line.text = cutLines doc.toList := map_text_withOffsets 0 _
  have hlineFeed : ∀ before line after, linesOf doc = before ++ line :: after → ∃ body,
      '\n' ∉ body ∧ (line.text = body ++ ['\n'] ∨ line.text = body ∧ after = []) := by
    intro before line after h
    rw [h, List.map_append, List.map_cons] at htexts
    simpa using lineFeed_of_cutLines htexts.symm
  refine ⟨⟨?_, fun before line after h => ?_, fun line hline => ?_, hlineFeed,
    fun line _ => line.append_terminator, fun line _ => line.terminator_mem,
    fun line _ e he => line.suffix_terminator he, fun before line after h hopen => ?_, ?_⟩,
    fun lines h => ?_⟩
  · rw [htexts, flatten_cutLines]
  · rw [offset_of_withOffsets h, Nat.zero_add]
  · exact ne_nil_of_mem_cutLines (htexts ▸ List.mem_map_of_mem hline)
  · obtain ⟨body, -, hclosed | ⟨-, hlast⟩⟩ := hlineFeed before line after h
    · exact absurd (hclosed ▸ List.suffix_append _ _) (Line.no_lineFeed hopen)
    · exact hlast
  · rw [← List.isEmpty_iff, isEmpty_linesOf, List.isEmpty_iff]
  · have hpieces : cutLines doc.toList = lines.map Line.text := by
      rw [← h.whole]
      refine cutLines_flatten (fun piece hpiece => ?_) fun before piece after hsplit => ?_
      · obtain ⟨line, hline, rfl⟩ := List.mem_map.1 hpiece
        exact h.nonempty line hline
      · obtain ⟨before', rest, rfl, rfl, hrest⟩ := List.map_eq_append_iff.1 hsplit
        obtain ⟨line, after', rfl, rfl, rfl⟩ := List.map_eq_cons_iff.1 hrest
        simpa using h.lineFeed before' line after' rfl
    rw [linesOf, hpieces, withOffsets_map_text fun before line after hsplit => ?_]
    rw [h.offset before line after hsplit, Nat.zero_add]

/-- Terminators of three kinds, carriage returns that belong to none, and a letter of two bytes. -/
def mixedLines : List Line := [⟨0, ['a', '\r', '\r', '\n']⟩, ⟨4, ['\r', 'b', '\n']⟩, ⟨7, ['\n']⟩,
  ⟨8, ['é', '\r']⟩]

theorem mixedLines_partition : IsPartition "a\r\r\n\rb\n\né\r".toList mixedLines ∧
    mixedLines = linesOf "a\r\r\n\rb\n\né\r" ∧
    mixedLines.map Line.content = [['a', '\r'], ['\r', 'b'], [], ['é']] := by
  obtain ⟨hpartition, hunique⟩ := linesOf_partition "a\r\r\n\rb\n\né\r"
  have hlines : linesOf "a\r\r\n\rb\n\né\r" = mixedLines := by decide +kernel
  rw [hlines] at hpartition
  exact ⟨hpartition, hunique _ hpartition, by decide⟩

end Scopelight.Text
