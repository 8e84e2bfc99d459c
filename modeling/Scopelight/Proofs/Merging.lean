import Mathlib.Data.List.Chain
import Scopelight.Tokenizer.Output

/-!
# Merged tokens

While tokens are joined in place, those up to the place that is written are what the tokens before
the place that is read come to, when they are joined one after the other to the last one
(`toList_mergeFrom`). No two neighbours of such a row join (`isChain_joinAll`), so it stays as it is
when it is merged again. Joining tokens that do not end before they begin keeps the scopes of every
byte (`scopesOver_joinAll`).
-/

namespace Scopelight

/-- Join a token to the last one, or put it behind. -/
def joinLast (out : List Token) (t : Token) : List Token :=
  match out.getLast? with
  | some a => if a.Joins t then out.dropLast ++ [{ a with stop := t.stop }] else out ++ [t]
  | none => [t]

/-- Join tokens from left to right to those before them. -/
def joinAll (ts : List Token) : List Token := ts.foldl joinLast []

/-- The scopes of the tokens that cover a byte, in their order. -/
def scopesOver (byte : Nat) (ts : List Token) : List (List String) :=
  (ts.filter fun t => t.start ≤ byte ∧ byte < t.stop).map (·.scopes)

section Joins

variable {a t : Token} {front out ts : List Token} {byte : Nat}

theorem joinLast_concat (front : List Token) (a t : Token) :
    joinLast (front ++ [a]) t =
      if a.Joins t then front ++ [{ a with stop := t.stop }] else front ++ [a, t] := by
  simp [joinLast]

/-! ## Joining in place -/

theorem take_succ_set {ts : List Token} {n : Nat} (hn : n < ts.length) (t : Token) :
    (ts.set n t).take (n + 1) = ts.take n ++ [t] := by
  have hn' : n < (ts.set n t).length := by rwa [List.length_set]
  rw [List.take_succ_eq_append_getElem hn', List.getElem_set_self hn', List.take_set_of_le le_rfl]

/-- The token at `read` is the next one, and the last one written is at `write`. -/
theorem foldl_joinLast_next {ts : Array Token} {write read : Nat} (hwrite : write < ts.size)
    (hread : read < ts.size) :
    (ts.toList.drop read).foldl joinLast (ts.toList.take (write + 1)) =
      (ts.toList.drop (read + 1)).foldl joinLast
        (if ts[write].Joins ts[read] then
          ts.toList.take write ++ [{ ts[write] with stop := ts[read].stop }]
        else ts.toList.take (write + 1) ++ [ts[read]]) := by
  have hrest : ts.toList.drop read = ts[read] :: ts.toList.drop (read + 1) :=
    List.drop_eq_getElem_cons hread
  have hout : ts.toList.take (write + 1) = ts.toList.take write ++ [ts[write]] :=
    List.take_succ_eq_append_getElem hwrite
  rw [hrest, hout, List.foldl_cons, joinLast_concat, List.append_assoc, List.singleton_append]

/-- What has been written is what the tokens that were read come to, and the rest is as it was. -/
theorem toList_mergeFrom (ts : Array Token) (write read : Nat) (h : write < read) :
    (mergeFrom ts write read h).toList =
      (ts.toList.drop read).foldl joinLast (ts.toList.take (write + 1)) := by
  fun_induction mergeFrom ts write read h with
  | case1 ts write read h hread hjoins ih =>
    rw [foldl_joinLast_next (h.trans hread) hread, if_pos hjoins, ih, Array.toList_set,
      take_succ_set (h.trans hread), List.drop_set_of_lt (by omega)]
  | case2 ts write h hread hjoins ih =>
    -- The token is at its place already.
    have hnext : ts.toList.take (write + 2) = ts.toList.take (write + 1) ++ [ts[write + 1]] :=
      List.take_succ_eq_append_getElem hread
    rw [foldl_joinLast_next (h.trans hread) hread, if_neg hjoins, ih, hnext]
  | case3 ts write read h hread hjoins hne ih =>
    have hwrite : write + 1 < ts.toList.length := lt_of_le_of_lt h hread
    rw [foldl_joinLast_next (h.trans hread) hread, if_neg hjoins, ih, Array.toList_set,
      take_succ_set hwrite, List.drop_set_of_lt (by omega)]
  | case4 ts write read h hread =>
    rw [List.drop_eq_nil_of_le (by simpa using hread), List.foldl_nil]
    simp

theorem mergeTokens_eq_joinAll (ts : List Token) : mergeTokens ts = joinAll ts := by
  unfold mergeTokens joinAll
  split_ifs with hshort
  · match ts, hshort with
    | [], _ => rfl
    | [t], _ => rfl
  · obtain ⟨t, ts, rfl⟩ := List.exists_cons_of_ne_nil (show ts ≠ [] by rintro rfl; simp at hshort)
    exact toList_mergeFrom _ 0 1 _

/-! ## What has been joined -/

theorem isChain_joinLast (h : out.IsChain fun a b => ¬a.Joins b) (t : Token) :
    (joinLast out t).IsChain fun a b => ¬a.Joins b := by
  rcases List.eq_nil_or_concat' out with rfl | ⟨front, a, rfl⟩
  · exact List.isChain_singleton t
  obtain ⟨hfront, -, hlast⟩ := List.isChain_append.1 h
  rw [joinLast_concat]
  split_ifs with hjoins
  · refine List.isChain_append.2 ⟨hfront, List.isChain_singleton _, fun p hp x hx => ?_⟩
    obtain rfl : { a with stop := t.stop } = x := by simpa using hx
    exact hlast p hp a rfl
  · exact List.isChain_append_cons_cons.2 ⟨h, hjoins, List.isChain_singleton t⟩

theorem isChain_joinAll (ts : List Token) : (joinAll ts).IsChain fun a b => ¬a.Joins b :=
  List.foldlRecOn ts _ List.isChain_nil fun _ hout t _ => isChain_joinLast hout t

theorem foldl_joinLast_of_isChain (h : (out ++ ts).IsChain fun a b => ¬a.Joins b) :
    ts.foldl joinLast out = out ++ ts := by
  induction ts generalizing out with
  | nil => simp
  | cons t ts ih =>
    have hnext : joinLast out t = out ++ [t] := by
      rcases List.eq_nil_or_concat' out with rfl | ⟨front, a, rfl⟩
      · rfl
      · rw [List.append_assoc, List.singleton_append] at h
        rw [joinLast_concat, if_neg (List.isChain_append_cons_cons.1 h).2.1, List.append_assoc,
          List.singleton_append]
    rw [List.append_cons] at h ⊢
    rw [List.foldl_cons, hnext, ih h]

/-! ## Bytes -/

theorem scopesOver_append (byte : Nat) (ts us : List Token) :
    scopesOver byte (ts ++ us) = scopesOver byte ts ++ scopesOver byte us := by
  simp [scopesOver]

theorem scopesOver_singleton (byte : Nat) (t : Token) :
    scopesOver byte [t] = if t.start ≤ byte ∧ byte < t.stop then [t.scopes] else [] := by
  unfold scopesOver
  split_ifs with h <;> simp [h]

theorem scopesOver_joined (hjoins : a.Joins t) (ha : a.start ≤ a.stop) (ht : t.start ≤ t.stop)
    (byte : Nat) : scopesOver byte [{ a with stop := t.stop }] = scopesOver byte [a, t] := by
  obtain ⟨hscopes, htouch⟩ := hjoins
  rw [show [a, t] = [a] ++ [t] from rfl, scopesOver_append]
  simp only [scopesOver_singleton, ← hscopes]
  rcases lt_or_ge byte a.stop with hbyte | hbyte
  · have hnot : ¬(t.start ≤ byte ∧ byte < t.stop) := by omega
    have hiff : a.start ≤ byte ∧ byte < t.stop ↔ a.start ≤ byte ∧ byte < a.stop := by omega
    rw [if_neg hnot, List.append_nil, if_congr hiff rfl rfl]
  · have hnot : ¬(a.start ≤ byte ∧ byte < a.stop) := by omega
    have hiff : a.start ≤ byte ∧ byte < t.stop ↔ t.start ≤ byte ∧ byte < t.stop := by omega
    rw [if_neg hnot, List.nil_append, if_congr hiff rfl rfl]

/-- Joining a token keeps the scopes of every byte, and what is joined does not end before it
begins. -/
theorem scopesOver_joinLast (hout : ∀ a ∈ out, a.start ≤ a.stop) (ht : t.start ≤ t.stop) :
    (∀ a ∈ joinLast out t, a.start ≤ a.stop) ∧
      ∀ byte, scopesOver byte (joinLast out t) = scopesOver byte (out ++ [t]) := by
  rcases List.eq_nil_or_concat' out with rfl | ⟨front, a, rfl⟩
  · exact ⟨by simpa [joinLast] using ht, fun _ => rfl⟩
  have ha := hout a (by simp)
  rw [joinLast_concat]
  split_ifs with hjoins
  · refine ⟨fun b hb => ?_, fun byte => ?_⟩
    · rcases List.mem_append.1 hb with hb | hb
      · exact hout b (List.mem_append_left _ hb)
      · obtain rfl := List.mem_singleton.1 hb
        exact ha.trans (hjoins.2.le.trans ht)
    · rw [scopesOver_append, scopesOver_joined hjoins ha ht, ← scopesOver_append]
      simp
  · refine ⟨fun b hb => ?_, fun byte => by simp⟩
    rcases List.mem_append.1 (by simpa using hb : b ∈ (front ++ [a]) ++ [t]) with hb | hb
    · exact hout b hb
    · exact List.mem_singleton.1 hb ▸ ht

theorem scopesOver_foldl_joinLast (hout : ∀ a ∈ out, a.start ≤ a.stop)
    (hts : ∀ t ∈ ts, t.start ≤ t.stop) (byte : Nat) :
    scopesOver byte (ts.foldl joinLast out) = scopesOver byte (out ++ ts) := by
  induction ts generalizing out with
  | nil => simp
  | cons t ts ih =>
    obtain ⟨hnext, hscopes⟩ := scopesOver_joinLast hout (hts t (by simp))
    rw [List.foldl_cons, ih hnext fun u hu => hts u (List.mem_cons_of_mem t hu), scopesOver_append,
      hscopes, ← scopesOver_append, ← List.append_cons]

/-- Merging in place joins each token to the last one where it can, and leaves nothing that could be
joined. If no token ends before it begins, every byte keeps its scopes, as often and in the order in
which it had them. -/
theorem mergeTokens_faithful (ts : List Token) :
    mergeTokens ts = joinAll ts ∧
    (mergeTokens ts).IsChain (fun a b => ¬a.Joins b) ∧
    mergeTokens (mergeTokens ts) = mergeTokens ts ∧
    ((∀ t ∈ ts, t.start ≤ t.stop) →
      ∀ byte, scopesOver byte (mergeTokens ts) = scopesOver byte ts) := by
  simp only [mergeTokens_eq_joinAll]
  refine ⟨trivial, isChain_joinAll ts, foldl_joinLast_of_isChain (isChain_joinAll ts), ?_⟩
  exact fun hts => scopesOver_foldl_joinLast (by simp) hts

/-- Three tokens that join, one of other scopes, and one that touches neither of its neighbours. -/
theorem merged_letters_cover :
    let ts : List Token :=
      [⟨["a"], 0, 1⟩, ⟨["a"], 1, 1⟩, ⟨["a"], 1, 3⟩, ⟨["a", "b"], 3, 4⟩, ⟨["a"], 6, 8⟩]
    (∀ t ∈ ts, t.start ≤ t.stop) ∧
      mergeTokens ts = [⟨["a"], 0, 3⟩, ⟨["a", "b"], 3, 4⟩, ⟨["a"], 6, 8⟩] ∧
      ∀ byte, scopesOver byte (mergeTokens ts) = scopesOver byte ts := by
  intro ts
  have hts : ∀ t ∈ ts, t.start ≤ t.stop := by decide
  obtain ⟨hjoined, -, -, hscopes⟩ := mergeTokens_faithful ts
  exact ⟨hts, hjoined.trans (by decide), hscopes hts⟩

end Joins

end Scopelight
