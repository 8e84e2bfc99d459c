import Mathlib.Order.Bounds.Basic
import Scopelight.Pattern.Literal
import Scopelight.Proofs.Ascii
import Scopelight.Proofs.Match
import Scopelight.Proofs.Outcome
import Scopelight.Proofs.Tiles

/-!
# Literal text in patterns

Whatever stands around it, an escaped text is read as its characters, one item for each
(`Reading.run_escapeLiteral`), and no anchor is seen in it (`hasEscape_escapeLiteral`). A pattern of
such items matches where the text stands (`Node.run_literal`). So a search finds the text where it
occurs first, also where blanks and comments are skipped (`searchBytes_escapeLiteral`).
-/

namespace Scopelight

open Text

namespace Text

/-- The text stands at this position of another. -/
def StandsAt (cs us : List Char) (i : Nat) : Prop := i ≤ us.length ∧ cs <+: us.drop i

/-- The text stands in another behind so many bytes. -/
def OccursAt (cs us : List Char) (b : Nat) : Prop :=
  ∃ before after, us = before ++ cs ++ after ∧ b = byteLength before

section Places

variable {cs us : List Char} {i origin b : Nat}

theorem position_byteOffset (hi : i ≤ us.length) : position? us (byteOffset us i) = some i := by
  induction us generalizing i with
  | nil =>
    obtain rfl : i = 0 := by simpa using hi
    rfl
  | cons c us ih =>
    cases i with
    | zero => rfl
    | succ i =>
      have hoffset : byteOffset (c :: us) (i + 1) = c.utf8Size + byteOffset us i := rfl
      have hpos := c.utf8Size_pos
      rw [hoffset, position?, Nat.add_sub_cancel_left, ih (by simpa using hi)]
      · rfl
      · omega

theorem byteOffset_le_iff (hi : i ≤ us.length) {j : Nat} :
    byteOffset us i ≤ byteOffset us j ↔ i ≤ j := by
  refine ⟨fun h => ?_, byteOffset_mono us⟩
  by_contra hji
  have hlt := byteOffset_lt (Nat.lt_of_not_le hji) hi
  omega

theorem occursAt_iff : OccursAt cs us b ↔ ∃ i, StandsAt cs us i ∧ b = byteOffset us i := by
  constructor
  · rintro ⟨before, after, rfl, rfl⟩
    refine ⟨before.length, ⟨by simp, after, by simp⟩, ?_⟩
    simp [byteOffset]
  · rintro ⟨i, ⟨hi, after, hafter⟩, rfl⟩
    refine ⟨us.take i, after, ?_, rfl⟩
    rw [List.append_assoc, hafter, List.take_append_drop]

theorem StandsAt.byteOffset_add (h : StandsAt cs us i) :
    byteOffset us (i + cs.length) = byteOffset us i + byteLength cs := by
  obtain ⟨-, after, hafter⟩ := h
  unfold byteOffset
  rw [List.take_add, ← hafter, List.take_left, byteLength_append]

theorem Boundary.exists_le (h : Boundary us b) : ∃ i ≤ us.length, b = byteOffset us i := by
  obtain ⟨i, rfl⟩ := h
  rcases Nat.le_total i us.length with hi | hi
  · exact ⟨i, hi, rfl⟩
  · exact ⟨us.length, Nat.le_refl _, by simp [byteOffset, List.take_of_length_le hi]⟩

theorem isLeast_occursAt_iff (ho : origin ≤ us.length) :
    IsLeast {b | byteOffset us origin ≤ b ∧ OccursAt cs us b} b ↔
      ∃ i, IsLeast {i | origin ≤ i ∧ StandsAt cs us i} i ∧ b = byteOffset us i := by
  constructor
  · rintro ⟨⟨hle, hoccurs⟩, hleast⟩
    obtain ⟨i, hi, rfl⟩ := occursAt_iff.1 hoccurs
    refine ⟨i, ⟨⟨(byteOffset_le_iff ho).1 hle, hi⟩, fun j ⟨hj, hstands⟩ => ?_⟩, rfl⟩
    have hij := hleast ⟨byteOffset_mono us hj, occursAt_iff.2 ⟨j, hstands, rfl⟩⟩
    exact (byteOffset_le_iff hi.1).1 hij
  · rintro ⟨i, ⟨⟨hle, hi⟩, hleast⟩, rfl⟩
    refine ⟨⟨byteOffset_mono us hle, occursAt_iff.2 ⟨i, hi, rfl⟩⟩, fun b ⟨hb, hoccurs⟩ => ?_⟩
    obtain ⟨j, hj, rfl⟩ := occursAt_iff.1 hoccurs
    exact byteOffset_mono us (hleast ⟨(byteOffset_le_iff ho).1 hb, hj⟩)

end Places

end Text

section Escaping

variable {c letter : Char}

theorem needsEscape_of_isAlphanum (h : c.isAlphanum = true) : needsEscape c = false :=
  ascii_induction (P := fun c => c.isAlphanum = true → needsEscape c = false)
    (by decide +kernel) (toNat_lt_of_isAlphanum h) h

theorem isAlphanum_of_needsEscape (h : needsEscape c = true) : c.isAlphanum = false := by
  rw [← Bool.not_eq_true]
  intro halpha
  simp [needsEscape_of_isAlphanum halpha] at h

theorem ne_of_needsEscape {d : Char} (hc : needsEscape c = false) (hd : needsEscape d = true) :
    c ≠ d := by
  rintro rfl
  simp [hc] at hd

theorem escapeLiteral_cons (c : Char) (cs : List Char) :
    escapeLiteral (c :: cs) = (if needsEscape c then ['\\', c] else [c]) ++ escapeLiteral cs :=
  List.flatMap_cons

theorem length_le_escapeLiteral (cs : List Char) : cs.length ≤ (escapeLiteral cs).length := by
  induction cs with
  | nil => rfl
  | cons c cs ih =>
    rw [escapeLiteral_cons]
    split <;> simp <;> omega

theorem hasEscape_cons (hc : c ≠ '\\') (cs : List Char) :
    hasEscape letter (c :: cs) = hasEscape letter cs := by
  rw [hasEscape]
  intro _ _ hslash
  exact absurd hslash hc

/-- What stands in an escaped text is no escape of a character that is not escaped. -/
theorem hasEscape_escapeLiteral (h : needsEscape letter = false) (ds cs : List Char) :
    hasEscape letter (escapeLiteral ds ++ cs) = hasEscape letter cs := by
  induction ds with
  | nil => rfl
  | cons d ds ih =>
    rw [escapeLiteral_cons]
    by_cases hd : needsEscape d
    · have hne : (d == letter) = false := beq_eq_false_iff_ne.2 (ne_of_needsEscape h hd).symm
      simp [hd, hasEscape, hne, ih]
    · have hslash : d ≠ '\\' := ne_of_needsEscape (Bool.not_eq_true _ ▸ hd) (by decide)
      simp [hd, hasEscape_cons hslash, ih]

end Escaping

namespace Regex

namespace Reading

variable {c : Char}

/-- A character that is no letter or digit stands for itself behind a backslash. -/
theorem escape_of_not_isAlphanum (r : Reading) (hc : c.isAlphanum = false) (cs : List Char) :
    r.escape (c :: cs) = .ok (r.pushChar c, cs) := by
  have hne : ∀ d : Char, d.isAlphanum = true → c ≠ d := by
    rintro d hd rfl
    simp [hc] at hd
  -- Only letters are items of their own, digits lead to groups, and control characters are
  -- written with letters.
  have hitem : escapedItem c = none := by
    simp [escapedItem, letterClass, escapedAnchor, hne]
  have hdigit : isAsciiDigit c = false := (Bool.or_eq_false_iff.1 hc).2
  have hnamed : namedChar c = c := by
    unfold namedChar
    split <;> first | rfl | exact absurd rfl (hne _ (by decide))
  have hchar : escapedChar c cs = .ok (c, cs) := by
    rw [escapedChar.eq_def]
    split
    case h_19 => rw [hnamed]
    all_goals exact absurd rfl (hne _ (by decide))
  unfold escape
  split
  case h_1 heq => cases heq
  case h_15 heq =>
    cases heq
    rw [hitem]
    simp [hdigit, hchar]
  all_goals
    rename_i heq
    cases heq
    exact absurd rfl (hne _ (by decide))

theorem step_of_needsEscape (r : Reading) (hc : needsEscape c = true) (cs : List Char) :
    r.step '\\' (c :: cs) = .ok (r.pushChar c, cs) :=
  r.escape_of_not_isAlphanum (isAlphanum_of_needsEscape hc) cs

theorem step_of_not_needsEscape (r : Reading) (hc : needsEscape c = false) (cs : List Char) :
    r.step c cs = .ok (r.pushChar c, cs) := by
  have hne : ∀ d, needsEscape d = true → c ≠ d := fun _ => ne_of_needsEscape hc
  have hhash : (c == '#') = false := beq_eq_false_iff_ne.2 (hne '#' (by decide))
  -- All that extended patterns skip is escaped.
  have hspacing : isSpacing c = false := by
    simp only [isSpacing, Bool.or_eq_false_iff, beq_eq_false_iff_ne]
    refine ⟨⟨⟨⟨hne _ ?_, hne _ ?_⟩, hne _ ?_⟩, hne _ ?_⟩, hne _ ?_⟩ <;> decide
  unfold step
  split
  case h_13 => simp [hhash, hspacing]
  all_goals exact absurd rfl (hne _ (by decide))

theorem run_nil (fuel : Nat) (r : Reading) : r.run fuel [] = .ok r := by
  cases fuel <;> rfl

theorem run_of_step {r r' : Reading} {cs rest : List Char} (h : r.step c cs = .ok (r', rest))
    (fuel : Nat) : r.run (fuel + 1) (c :: cs) = r'.run fuel rest := by
  rw [run, h]
  rfl

/-- An escaped text is read as its characters, one step for each, whatever was read before and
whatever follows. -/
theorem run_escapeLiteral (r : Reading) (fuel : Nat) (ds cs : List Char) :
    r.run (fuel + ds.length) (escapeLiteral ds ++ cs) = (ds.foldl pushChar r).run fuel cs := by
  induction ds generalizing r with
  | nil => rfl
  | cons d ds ih =>
    rw [escapeLiteral_cons, List.foldl_cons, ← ih, List.length_cons, ← Nat.add_assoc]
    by_cases hd : needsEscape d
    · rw [if_pos hd]
      exact run_of_step (r.step_of_needsEscape hd _) _
    · rw [if_neg hd]
      exact run_of_step (r.step_of_not_needsEscape (Bool.not_eq_true _ ▸ hd) _) _

theorem run_escapeLiteral_end (r : Reading) (fuel : Nat) (ds : List Char) :
    r.run ((escapeLiteral ds).length + fuel) (escapeLiteral ds) = .ok (ds.foldl pushChar r) := by
  have hfuel := Nat.sub_add_cancel (Nat.le_add_right_of_le (k := fuel) (length_le_escapeLiteral ds))
  rw [← hfuel, ← List.append_nil (escapeLiteral ds), run_escapeLiteral, run_nil]

theorem foldl_pushChar (r : Reading) (ds : List Char) :
    ds.foldl pushChar r = { r with top := { r.top with
      items := (ds.map (Node.char · r.options.anyCase)).reverse ++ r.top.items } } := by
  induction ds generalizing r with
  | nil => rfl
  | cons d ds ih =>
    rw [List.foldl_cons, ih]
    simp [pushChar, push]

end Reading

/-- The characters of a text, one after the other. -/
def Node.literal (cs : List Char) : Node := .ofSeq (cs.map (Node.char · false))

namespace Node

theorem bindCalls_ofSeq {r : Reading} {calls : List Callee} {ns : List Node}
    (h : ∀ n ∈ ns, n.bindCalls r calls = .ok n) : (ofSeq ns).bindCalls r calls = .ok (ofSeq ns) := by
  induction ns using ofSeq.induct with
  | case1 => rfl
  | case2 n => exact h n (by simp)
  | case3 n ns hne ih =>
    have hn := h n (by simp)
    have hns := ih fun m hm => h m (by simp [hm])
    rw [ofSeq.eq_3 n ns hne]
    exact bind_ok_iff.2 ⟨n, hn, bind_ok_iff.2 ⟨_, hns, rfl⟩⟩

theorem check_ofSeq {groups : Nat} {ns : List Node} (h : ∀ n ∈ ns, n.check groups = .ok ()) :
    (ofSeq ns).check groups = .ok () := by
  induction ns using ofSeq.induct with
  | case1 => rfl
  | case2 n => exact h n (by simp)
  | case3 n ns hne ih =>
    have hn := h n (by simp)
    have hns := ih fun m hm => h m (by simp [hm])
    rw [ofSeq.eq_3 n ns hne]
    exact bind_ok_iff.2 ⟨(), hn, hns⟩

/-! ### What is left as it is where case counts -/

theorem join_map_node (ns : List Node) : Piece.join 0 (ns.map .node) = ns := by
  induction ns with
  | nil => rfl
  | cons n ns ih => exact congrArg (n :: ·) ih

theorem folded_ofSeq {ns : List Node} (h : ∀ n ∈ ns, n.pieces false = [.node n]) :
    (ofSeq ns).folded = ofSeq ns := by
  have hpieces (hne : ns ≠ []) : (ofSeq ns).pieces false = ns.map .node := by
    induction ns using ofSeq.induct with
    | case1 => exact absurd rfl hne
    | case2 n => exact h n (by simp)
    | case3 n ns htail ih =>
      have hn := h n (by simp)
      have hns := ih (fun m hm => h m (by simp [hm])) (by simpa using htail)
      rw [ofSeq.eq_3 n ns htail, pieces, hn, hns, List.map_cons, List.singleton_append]
  by_cases hne : ns = []
  · rw [hne]
    rfl
  · rw [folded, hpieces hne, ofPieces, join_map_node]

theorem pieces_ne_nil (behind : Bool) (n : Node) : n.pieces behind ≠ [] := by
  induction n with
  | seq a b iha _ => exact List.append_ne_nil_of_left_ne_nil iha _
  | char c anyCase => cases anyCase <;> simp [pieces]
  | set s => cases s <;> simp [pieces]
  | _ => simp [pieces]

theorem join_ne_nil {ps : List Piece} (h : ps ≠ []) : Piece.join 0 ps ≠ [] := by
  obtain ⟨p, ps, rfl⟩ := List.exists_cons_of_ne_nil h
  rw [Piece.join]
  split <;> simp

theorem folded_seq_char (c : Char) (n : Node) :
    (seq (char c false) n).folded = seq (char c false) n.folded := by
  have hne := join_ne_nil (pieces_ne_nil false n)
  change ofSeq (char c false :: Piece.join 0 (n.pieces false)) = _
  rw [ofSeq.eq_3 _ _ hne]
  rfl

end Node

theorem readPattern_of_run {cs ds : List Char} {r : Reading}
    (hrun : Reading.initial.run cs.length cs = .ok r) (hfinish : r.finish = .ok (.literal ds)) :
    readPattern cs = .ok (.literal ds, r.groups) := by
  have hbind : (Node.literal ds).bindCalls r r.calls.reverse = .ok (.literal ds) := by
    refine Node.bindCalls_ofSeq fun n hn => ?_
    obtain ⟨c, -, rfl⟩ := List.mem_map.1 hn
    rfl
  have hcheck : (Node.literal ds).check r.groups = .ok () := by
    refine Node.check_ofSeq fun n hn => ?_
    obtain ⟨c, -, rfl⟩ := List.mem_map.1 hn
    rfl
  have hfolded : (Node.literal ds).folded = .literal ds := by
    refine Node.folded_ofSeq fun n hn => ?_
    obtain ⟨c, -, rfl⟩ := List.mem_map.1 hn
    rfl
  refine bind_ok_iff.2 ⟨r, hrun, bind_ok_iff.2 ⟨_, hfinish, bind_ok_iff.2 ⟨_, hbind, ?_⟩⟩⟩
  refine bind_ok_iff.2 ⟨_, hcheck, ?_⟩
  rw [hfolded]
  rfl

theorem readPattern_escapeLiteral (cs : List Char) :
    readPattern (escapeLiteral cs) = .ok (.literal cs, 0) := by
  have hrun := Reading.initial.run_escapeLiteral_end 0 cs
  rw [Reading.foldl_pushChar] at hrun
  refine readPattern_of_run hrun ?_
  simp [Reading.finish, Reading.finishFrom, Reading.initial, Options.initial, OpenGroup.body,
    Node.ofAlts, Node.literal]

theorem readPattern_spaced_escapeLiteral (cs : List Char) :
    readPattern ("(?x)".toList ++ escapeLiteral cs) = .ok (.literal cs, 0) := by
  -- The options open a group that ends with the pattern.
  have hopen : Reading.initial.step '(' ('?' :: 'x' :: ')' :: escapeLiteral cs) =
      .ok (Reading.initial.openGroup .tail ⟨false, false, true⟩, escapeLiteral cs) := rfl
  have hrun : Reading.initial.run ("(?x)".toList ++ escapeLiteral cs).length
      ("(?x)".toList ++ escapeLiteral cs) = .ok (cs.foldl Reading.pushChar
        (Reading.initial.openGroup .tail ⟨false, false, true⟩)) :=
    (Reading.run_of_step hopen _).trans (Reading.run_escapeLiteral_end _ 3 cs)
  rw [Reading.foldl_pushChar] at hrun
  refine readPattern_of_run hrun ?_
  simp [Reading.finish, Reading.finishFrom, Reading.initial, Reading.openGroup, OpenGroup.body,
    OpenGroup.close, Node.ofAlts, Node.ofSeq.eq_2, Node.literal]

/-! ## What it matches -/

section Matching

variable {s : Subject} {call : Nat → Cont → Cont} {k : Cont} {p : Progress}

theorem Node.run_ofSeq_cons (n : Node) (ns : List Node) :
    (ofSeq (n :: ns)).run s call k p = n.run s call (fun q => (ofSeq ns).run s call k q) p := by
  cases ns <;> rfl

theorem cons_isPrefix_drop_iff {α : Type} {a : α} {as bs : List α} {i : Nat} :
    a :: as <+: bs.drop i ↔ bs[i]? = some a ∧ as <+: bs.drop (i + 1) := by
  rcases Nat.lt_or_ge i bs.length with hi | hi
  · rw [List.drop_eq_getElem_cons hi, List.cons_prefix_cons, List.getElem?_eq_getElem hi,
      Option.some_inj, eq_comm]
  · simp [List.drop_eq_nil_of_le hi, List.getElem?_eq_none hi]

theorem Node.run_literal (s : Subject) (call : Nat → Cont → Cont) (k : Cont) (p : Progress)
    (cs : List Char) : (literal cs).run s call k p =
      if cs <+: s.text.toList.drop p.pos then k (p.move (p.pos + cs.length)) else none := by
  induction cs generalizing p with
  | nil => simp [literal, ofSeq, run, Progress.move]
  | cons c cs ih =>
    have hstep : (literal (c :: cs)).run s call k p =
        (Node.char c false).run s call (fun q => (literal cs).run s call k q) p :=
      run_ofSeq_cons _ _
    rw [hstep, run]
    simp only [ih, cons_isPrefix_drop_iff, Array.getElem?_toList]
    rcases s.text[p.pos]? with _ | d
    · simp
    · by_cases hd : d = c
      · simp [hd, Progress.move, Nat.add_assoc, Nat.add_comm 1]
      · simp [hd]

theorem search_literal {cs us : List Char} {origin : Nat} {m : Regex.Match} :
    (⟨.literal cs, 0⟩ : Regex).search us.toArray origin = some m ↔
      ∃ i, IsLeast {i | origin ≤ i ∧ StandsAt cs us i} i ∧ m = ⟨[some ⟨i, i + cs.length⟩]⟩ := by
  have hat : ∀ i, ((⟨.literal cs, 0⟩ : Regex).matchAt ⟨us.toArray, origin⟩ i).map
      ((⟨.literal cs, 0⟩ : Regex).report i) =
        if cs <+: us.drop i then some ⟨[some ⟨i, i + cs.length⟩]⟩ else none := by
    intro i
    rw [matchAt, Node.run_literal]
    split <;> simp_all [report, Progress.move]
  simp only [search, firstFrom_eq_some_iff, hat, List.size_toArray]
  constructor
  · rintro ⟨i, hle, hlt, hi, hbefore⟩
    split at hi
    · next hfits =>
      refine ⟨i, ⟨⟨hle, by omega, hfits⟩, fun j ⟨hj, _, hfits'⟩ => ?_⟩, (Option.some.inj hi).symm⟩
      by_contra hji
      simpa [hfits'] using hbefore j hj (by omega)
    · cases hi
  · rintro ⟨i, ⟨⟨hle, hsize, hfits⟩, hleast⟩, rfl⟩
    refine ⟨i, hle, by omega, if_pos hfits, fun j hj hji => if_neg fun hfits' => ?_⟩
    have hij := hleast ⟨hj, by omega, hfits'⟩
    omega

end Matching

end Regex

namespace Pattern

theorem compile_of_readPattern {source : String} {root : Regex.Node} {groups : Nat}
    (hA : hasEscape 'A' source.toList = false) (hG : hasEscape 'G' source.toList = false)
    (hread : Regex.readPattern source.toList = .ok (root, groups)) :
    compile source = .ok ⟨source, ⟨root, groups⟩, ⟨root, groups⟩, ⟨root, groups⟩,
      ⟨root, groups⟩⟩ := by
  have hregex : readAs source source = .ok ⟨root, groups⟩ := by
    rw [readAs, Regex.ofString, hread]
    rfl
  rw [compile, hA, hG, hregex]
  rfl

/-- A text is read as itself, also where blanks and comments are skipped. -/
theorem compile_escapeLiteral (t : String) (spaced : Bool) :
    let source := (if spaced then "(?x)" else "") ++ String.ofList (escapeLiteral t.toList)
    let r : Regex := ⟨.literal t.toList, 0⟩
    compile source = .ok ⟨source, r, r, r, r⟩ := by
  intro source r
  have hsource : source.toList =
      (if spaced then "(?x)".toList else []) ++ escapeLiteral t.toList := by
    cases spaced <;> simp [source]
  have hescape : ∀ letter : Char, needsEscape letter = false →
      hasEscape letter source.toList = false := by
    intro letter hletter
    have htext := hasEscape_escapeLiteral hletter t.toList []
    rw [List.append_nil] at htext
    rw [hsource]
    cases spaced <;> simp [hasEscape_cons, htext, hasEscape]
  have hread : Regex.readPattern source.toList = .ok (.literal t.toList, 0) := by
    rw [hsource]
    cases spaced
    · exact Regex.readPattern_escapeLiteral _
    · exact Regex.readPattern_spaced_escapeLiteral _
  exact compile_of_readPattern (hescape 'A' (by decide)) (hescape 'G' (by decide +kernel))
    hread

/-- Anchors make no difference to a pattern that is the same in all variants. -/
theorem searchBytes_of_uniform (source : String) (r : Regex) {u : String} {i : Nat}
    (hi : i ≤ u.toList.length) (documentStart : Bool) (anchor : Option Nat) :
    (⟨source, r, r, r, r⟩ : Pattern).searchBytes u (byteOffset u.toList i) documentStart anchor
        false =
      (r.search u.toList.toArray i).map fun m => m.groups.map (·.map (spanBytes u.toList)) := by
  have hsearch (a : Anchors) : (⟨source, r, r, r, r⟩ : Pattern).search u.toList.toArray i a =
      r.search u.toList.toArray i := by
    unfold search variant
    split <;> rfl
  simp only [searchBytes, position_byteOffset hi, Option.bind_eq_bind, Option.bind_some, hsearch,
    Bool.false_eq_true, if_false]
  rcases r.search u.toList.toArray i with _ | m <;> rfl

/-- Whatever the text is, its escaped form can be compiled, and a search for it from between two
characters finds where the text occurs first, with no further groups. -/
theorem searchBytes_escapeLiteral (t : String) (spaced : Bool) :
    ∃ p, compile ((if spaced then "(?x)" else "") ++ String.ofList (escapeLiteral t.toList)) =
        .ok p ∧
      ∀ (u : String) (origin : Nat), Boundary u.toList origin →
        ∀ (documentStart : Bool) (anchor : Option Nat) (groups : List (Option Regex.Span)),
          p.searchBytes u origin documentStart anchor false = some groups ↔
            ∃ b, IsLeast {b | origin ≤ b ∧ OccursAt t.toList u.toList b} b ∧
              groups = [some ⟨b, b + byteLength t.toList⟩] := by
  refine ⟨_, compile_escapeLiteral t spaced, fun u origin ho documentStart anchor groups => ?_⟩
  obtain ⟨start, hstart, rfl⟩ := ho.exists_le
  rw [searchBytes_of_uniform _ _ hstart, Option.map_eq_some_iff]
  simp only [Regex.search_literal, isLeast_occursAt_iff hstart]
  constructor
  · rintro ⟨m, ⟨i, hleast, rfl⟩, rfl⟩
    refine ⟨_, ⟨i, hleast, rfl⟩, ?_⟩
    simp [spanBytes, hleast.1.2.byteOffset_add]
  · rintro ⟨b, ⟨i, hleast, rfl⟩, rfl⟩
    refine ⟨_, ⟨i, hleast, rfl⟩, ?_⟩
    simp [spanBytes, hleast.1.2.byteOffset_add]

/-- A text of characters that patterns treat as special is found behind a longer character. -/
theorem special_text_found :
    Boundary "é\\A #\\A #".toList 2 ∧
      ∃ p, compile ((if true then "(?x)" else "") ++
          String.ofList (escapeLiteral "\\A #".toList)) = .ok p ∧
        p.searchBytes "é\\A #\\A #" 2 false none false = some [some ⟨2, 6⟩] := by
  have hboundary : Boundary "é\\A #\\A #".toList 2 := ⟨1, by decide⟩
  obtain ⟨p, hp, hsearch⟩ := searchBytes_escapeLiteral "\\A #" true
  have hoccurs : OccursAt "\\A #".toList "é\\A #\\A #".toList 2 :=
    ⟨['é'], "\\A #".toList, by decide, by decide⟩
  have hleast : IsLeast {b | 2 ≤ b ∧ OccursAt "\\A #".toList "é\\A #\\A #".toList b} 2 :=
    ⟨⟨Nat.le_refl 2, hoccurs⟩, fun b hb => hb.1⟩
  exact ⟨hboundary, p, hp, (hsearch _ 2 hboundary false none _).2 ⟨2, hleast, rfl⟩⟩

end Pattern

end Scopelight
