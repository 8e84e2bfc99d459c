import Mathlib.Tactic.Common
import Scopelight.Tokenizer.Basic

/-!
# Tokens side by side

Tokens tile a range if each begins where the one before it ends and none is empty (`Tiles`). Moving
the places of a tiling along a monotone map leaves a tiling, without the tokens that became empty
(`Tiles.map`). The tokens of a text cover it if they tile its bytes, at the bounds of its characters
(`Covers`), and coverings of parts make up one of the whole (`Covers.append`).
-/

namespace Scopelight

namespace Text

theorem byteLength_append (cs : List Char) :
    ∀ ds, byteLength (cs ++ ds) = byteLength cs + byteLength ds := by
  intro ds
  induction cs with
  | nil => simp [byteLength]
  | cons c cs ih =>
    simp only [List.cons_append, byteLength, ih]
    omega

@[simp]
theorem byteOffset_length (cs : List Char) : byteOffset cs cs.length = byteLength cs := by
  simp [byteOffset]

theorem byteOffset_append_left {cs : List Char} {i : Nat} (hi : i ≤ cs.length) (ds : List Char) :
    byteOffset (cs ++ ds) i = byteOffset cs i := by
  unfold byteOffset
  rw [List.take_append_of_le_length hi]

theorem byteOffset_append_right (cs ds : List Char) (i : Nat) :
    byteOffset (cs ++ ds) (cs.length + i) = byteLength cs + byteOffset ds i := by
  unfold byteOffset
  rw [List.take_length_add_append, byteLength_append]

theorem byteLength_mono {cs ds : List Char} (h : cs <+: ds) :
    byteLength cs ≤ byteLength ds := by
  obtain ⟨es, rfl⟩ := h
  rw [byteLength_append]
  omega

theorem byteOffset_mono (cs : List Char) {i j : Nat} (h : i ≤ j) :
    byteOffset cs i ≤ byteOffset cs j :=
  byteLength_mono (List.take_prefix_take_left h)

theorem byteOffset_lt {cs : List Char} {i j : Nat} (h : i < j) (hj : j ≤ cs.length) :
    byteOffset cs i < byteOffset cs j := by
  have hi : i < cs.length := by omega
  have hstep : byteOffset cs (i + 1) = byteOffset cs i + cs[i].utf8Size := by
    unfold byteOffset
    rw [List.take_succ_eq_append_getElem hi, byteLength_append]
    rfl
  have hpos := cs[i].utf8Size_pos
  have hmono := byteOffset_mono cs (show i + 1 ≤ j from h)
  omega

theorem byteOffset_le (cs : List Char) (i : Nat) : byteOffset cs i ≤ byteLength cs :=
  byteLength_mono (List.take_prefix i cs)

/-- An offset that lies between two characters, or at an end. -/
def Boundary (cs : List Char) (offset : Nat) : Prop := ∃ i, offset = byteOffset cs i

theorem Boundary.append_left {cs : List Char} {offset : Nat} (h : Boundary cs offset)
    (ds : List Char) : Boundary (cs ++ ds) offset := by
  obtain ⟨i, rfl⟩ := h
  rcases Nat.le_total i cs.length with hi | hi
  · exact ⟨i, (byteOffset_append_left hi ds).symm⟩
  · refine ⟨cs.length, ?_⟩
    rw [byteOffset_append_left (Nat.le_refl _)]
    unfold byteOffset
    rw [List.take_of_length_le hi, List.take_length]

theorem Boundary.append_right {ds : List Char} {offset : Nat} (h : Boundary ds offset)
    (cs : List Char) : Boundary (cs ++ ds) (offset + byteLength cs) := by
  obtain ⟨i, rfl⟩ := h
  exact ⟨cs.length + i, by rw [byteOffset_append_right, Nat.add_comm]⟩

theorem stripTerminator_isPrefix (cs : List Char) : stripTerminator cs <+: cs := by
  have hreverse : ∀ {rest : List Char}, rest <:+ cs.reverse → rest.reverse <+: cs := by
    intro rest h
    have := List.reverse_prefix.2 h
    rwa [List.reverse_reverse] at this
  unfold stripTerminator
  split
  · rename_i rest h
    exact hreverse (h ▸ (List.suffix_cons _ _).trans (List.suffix_cons _ _))
  · rename_i rest h
    exact hreverse (h ▸ List.suffix_cons _ _)
  · rename_i rest h
    exact hreverse (h ▸ List.suffix_cons _ _)
  · exact List.prefix_rfl

theorem flatten_cutLines : ∀ cs, (cutLines cs).flatten = cs
  | [] => rfl
  | c :: cs => by
    have ih := flatten_cutLines cs
    unfold cutLines
    split_ifs
    · simp [ih]
    · split
      · rename_i h
        rw [h] at ih
        simp [← ih]
      · rename_i line lines h
        rw [h] at ih
        simp [← ih]

end Text

open Text

/-- Each token begins where the one before it ends, the first at `a`; the last ends at `b`, and none
is empty. -/
def Tiles (b : Nat) : Nat → List Token → Prop
  | a, [] => a = b
  | a, t :: ts => t.start = a ∧ t.start < t.stop ∧ Tiles b t.stop ts

section Tiles

variable {a b c : Nat} {ts us : List Token}

theorem tiles_append : Tiles c a (ts ++ us) ↔ ∃ b, Tiles b a ts ∧ Tiles c b us := by
  induction ts generalizing a with
  | nil => simp [Tiles]
  | cons t ts ih => simp [Tiles, ih, and_assoc]

theorem Tiles.le (h : Tiles b a ts) : a ≤ b := by
  induction ts generalizing a with
  | nil => exact Nat.le_of_eq h
  | cons t ts ih =>
    obtain ⟨hstart, hlt, h⟩ := h
    have := ih h
    omega

theorem Tiles.mem_bounds (h : Tiles b a ts) {t : Token} (ht : t ∈ ts) :
    a ≤ t.start ∧ t.stop ≤ b := by
  induction ts generalizing a with
  | nil => simp at ht
  | cons u us ih =>
    obtain ⟨hstart, hlt, h⟩ := h
    rcases List.mem_cons.1 ht with rfl | ht
    · exact ⟨by omega, h.le⟩
    · have := ih h ht
      omega

theorem Tiles.exists_mem (h : Tiles b a ts) {i : Nat} (hi : a ≤ i) (hlt : i < b) :
    ∃ t ∈ ts, t.start ≤ i ∧ i < t.stop := by
  induction ts generalizing a with
  | nil =>
    obtain rfl : a = b := h
    omega
  | cons t ts ih =>
    obtain ⟨rfl, -, h⟩ := h
    by_cases ht : i < t.stop
    · exact ⟨t, List.mem_cons_self, hi, ht⟩
    · obtain ⟨u, hu, hbounds⟩ := ih h (by omega)
      exact ⟨u, List.mem_cons_of_mem t hu, hbounds⟩

theorem Tiles.shift (h : Tiles b a ts) (n : Nat) : Tiles (b + n) (a + n) (shiftTokens n ts) := by
  induction ts generalizing a with
  | nil => exact congrArg (· + n) h
  | cons t ts ih =>
    obtain ⟨hstart, hlt, h⟩ := h
    exact ⟨congrArg (· + n) hstart, by dsimp only; omega, ih h⟩

/-- Tokens moved along a monotone map, without those that it makes empty, lie side by side too. -/
theorem Tiles.map {f : Nat → Nat} (hf : ∀ {i j}, i ≤ j → f i ≤ f j) (h : Tiles b a ts) :
    Tiles (f b) (f a) ((ts.map fun t => { t with start := f t.start, stop := f t.stop }).filter
      fun t => t.start < t.stop) := by
  induction ts generalizing a with
  | nil => exact congrArg f h
  | cons t ts ih =>
    obtain ⟨rfl, hlt, h⟩ := h
    have hle := hf (Nat.le_of_lt hlt)
    simp only [List.map_cons, List.filter_cons, decide_eq_true_eq]
    split_ifs with hne
    · exact ⟨rfl, hne, ih h⟩
    · rw [Nat.le_antisymm hle (by omega)]
      exact ih h

end Tiles

/-- Tokens give scopes to each byte of a text once, from its start to its end, each to a run of
whole characters, and all of them below one scope. -/
structure Covers (scope : String) (cs : List Char) (ts : List Token) : Prop where
  tiles : Tiles (byteLength cs) 0 ts
  boundary : ∀ t ∈ ts, Boundary cs t.start ∧ Boundary cs t.stop
  outermost : ∀ t ∈ ts, t.scopes.head? = some scope

section Covers

variable {scope : String} {cs ds : List Char} {ts us : List Token}

@[simp]
theorem shiftTokens_zero (ts : List Token) : shiftTokens 0 ts = ts := by
  simp [shiftTokens]

theorem shiftTokens_append (n : Nat) (ts us : List Token) :
    shiftTokens n (ts ++ us) = shiftTokens n ts ++ shiftTokens n us := by
  simp [shiftTokens]

theorem shiftTokens_add (m n : Nat) (ts : List Token) :
    shiftTokens (m + n) ts = shiftTokens m (shiftTokens n ts) := by
  simp [shiftTokens, Nat.add_comm, Nat.add_left_comm]

theorem covers_nil : Covers scope [] [] :=
  ⟨rfl, fun t ht => by simp at ht, fun t ht => by simp at ht⟩

theorem Covers.append (h : Covers scope cs ts) (h' : Covers scope ds us) :
    Covers scope (cs ++ ds) (ts ++ shiftTokens (byteLength cs) us) where
  tiles := by
    refine tiles_append.2 ⟨byteLength cs, h.tiles, ?_⟩
    have := h'.tiles.shift (byteLength cs)
    rwa [Nat.zero_add, Nat.add_comm, ← byteLength_append] at this
  boundary := by
    intro t ht
    rcases List.mem_append.1 ht with ht | ht
    · exact (h.boundary t ht).imp (·.append_left ds) (·.append_left ds)
    · obtain ⟨u, hu, rfl⟩ := List.mem_map.1 ht
      exact (h'.boundary u hu).imp (·.append_right cs) (·.append_right cs)
  outermost := by
    intro t ht
    rcases List.mem_append.1 ht with ht | ht
    · exact h.outermost t ht
    · obtain ⟨u, hu, rfl⟩ := List.mem_map.1 ht
      exact h'.outermost u hu

end Covers

/-! ## From the matched line to the real one -/

theorem realOffset_zero (line : List Char) : realOffset line 0 = 0 := by
  simp [realOffset, byteOffset, byteLength]

theorem realOffset_size (line : List Char) :
    realOffset line (matchedLine line).size = byteLength line := by
  have hsize : (matchedLine line).size = (stripTerminator line).length + 1 := by
    simp [matchedLine]
  rw [realOffset, hsize, if_neg (by omega)]

theorem realOffset_mono (line : List Char) {i j : Nat} (h : i ≤ j) :
    realOffset line i ≤ realOffset line j := by
  simp only [realOffset]
  split_ifs
  · exact byteOffset_mono _ h
  · exact Nat.le_trans (byteOffset_le _ i) (byteLength_mono (stripTerminator_isPrefix line))
  · omega
  · exact Nat.le_refl _

theorem boundary_realOffset (line : List Char) (i : Nat) : Boundary line (realOffset line i) := by
  simp only [realOffset]
  split_ifs with hi
  · obtain ⟨ds, hds⟩ := stripTerminator_isPrefix line
    refine ⟨i, ?_⟩
    rw [← byteOffset_append_left hi ds, hds]
  · exact ⟨line.length, (byteOffset_length line).symm⟩

theorem covers_realTokens {scope : String} {line : List Char} {ts : List Token}
    (h : Tiles (matchedLine line).size 0 ts) (hs : ∀ t ∈ ts, t.scopes.head? = some scope) :
    Covers scope line (realTokens line ts) where
  tiles := by
    have := h.map (realOffset_mono line)
    rwa [realOffset_zero, realOffset_size] at this
  boundary := by
    intro t ht
    obtain ⟨u, -, rfl⟩ := List.mem_map.1 (List.mem_filter.1 ht).1
    exact ⟨boundary_realOffset line u.start, boundary_realOffset line u.stop⟩
  outermost := by
    intro t ht
    obtain ⟨u, hu, rfl⟩ := List.mem_map.1 (List.mem_filter.1 ht).1
    exact hs u hu

end Scopelight
