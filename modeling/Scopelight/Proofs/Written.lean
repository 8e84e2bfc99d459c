import Mathlib.Data.String.Basic
import Scopelight.Json.Reader
import Scopelight.Json.Value
import Scopelight.Proofs.Outcome

/-!
# Reading what was written

A value that is written on one line is read back, whatever stands behind it. That holds of all
strings (`readsBack_string`) and, where it holds of the items, of lists (`readsBack_list`) and of maps
whose keys are in order (`readsBack_map`), as maps are that were read (`inOrder_sortKeys`). So what a
list or map reader gives is read back if this is true of the reader of items (`Rereads.list`,
`Rereads.map`). A record may be written without the fields that have their first value (`Writes`,
`readsBack_record`).
-/

namespace Scopelight.Json

open Text

/-- The reader takes the written value and leaves what stands behind it. -/
def ReadsBack {α : Type} (read : Read α) (a : α) (v : Value) : Prop :=
  ∀ rest, read (v.compact ++ rest) = .ok (a, rest)

/-- Whatever the reader gives is read back once it is written. -/
def Rereads {α : Type} (read : Read α) (write : α → Value) : Prop :=
  ∀ ⦃cs a rest⦄, read cs = .ok (a, rest) → ReadsBack read a (write a)

/-! ## Strings -/

section Strings

theorem hexUnit_control {c : Char} (h : c.toNat < 0x20) (cs : List Char) :
    hexUnit ('0' :: '0' :: Nat.digitChar (c.toNat / 16) :: Nat.digitChar (c.toNat % 16) :: cs) =
      .ok (c.toNat, cs) := by
  have hdigits : ∀ n < 0x20,
      ['0', '0', Nat.digitChar (n / 16), Nat.digitChar (n % 16)].all isHexDigit = true ∧
        digitsValue 16 ['0', '0', Nat.digitChar (n / 16), Nat.digitChar (n % 16)] = n := by
    decide
  obtain ⟨hhex, hvalue⟩ := hdigits c.toNat h
  simp only [hexUnit, List.take_succ_cons, List.take_zero, List.drop_succ_cons, List.drop_zero,
    hvalue]
  rw [if_pos ⟨rfl, hhex⟩]

theorem escaped_control {c : Char} (h : c.toNat < 0x20) (cs : List Char) :
    escaped ('u' :: '0' :: '0' :: Nat.digitChar (c.toNat / 16) :: Nat.digitChar (c.toNat % 16) ::
      cs) = .ok (c, cs) := by
  simp only [escaped, unicodeEscape, hexUnit_control h]
  change (if 0xdc00 ≤ c.toNat ∧ c.toNat ≤ 0xdfff then _ else _) = _
  rw [if_neg (by omega), if_neg (by omega), Char.ofNat_toNat]
  rfl

theorem stringBody_writeChar (c : Char) (fuel : Nat) (cs : List Char) :
    stringBody (fuel + 1) (writeChar c ++ cs) =
      (fun p => (c :: p.1, p.2)) <$> stringBody fuel cs := by
  have hmap : (stringBody fuel cs >>= fun p => .ok (c :: p.1, p.2)) =
      (fun p => (c :: p.1, p.2)) <$> stringBody fuel cs := by
    rcases stringBody fuel cs with e | p <;> rfl
  rw [← hmap]
  unfold writeChar
  split_ifs with h₁ h₂ h₃ h₄ h₅ h₆ h₇ h₈
  -- Seven characters have an escape of one letter.
  iterate 7
    subst c
    rfl
  · simp only [List.cons_append, List.nil_append, stringBody, escaped_control h₈]
    rfl
  · rw [List.singleton_append, stringBody, if_neg h₈]
    · rfl
    · exact h₁
    · exact h₂

theorem stringBody_write (s : List Char) {fuel : Nat} (hfuel : s.length < fuel)
    (rest : List Char) : stringBody fuel (s.flatMap writeChar ++ '"' :: rest) = .ok (s, rest) := by
  induction s generalizing fuel with
  | nil =>
    obtain ⟨n, rfl⟩ := Nat.exists_eq_add_of_lt hfuel
    rfl
  | cons c s ih =>
    obtain ⟨n, rfl⟩ := Nat.exists_eq_add_of_lt hfuel
    rw [List.flatMap_cons, List.append_assoc, stringBody_writeChar, ih (by simp; omega)]
    rfl

theorem length_le_flatMap_writeChar (s : List Char) : s.length ≤ (s.flatMap writeChar).length := by
  induction s with
  | nil => exact Nat.le_refl _
  | cons c s ih =>
    have hpos : 0 < (writeChar c).length := by
      unfold writeChar
      split_ifs <;> exact Nat.succ_pos _
    rw [List.flatMap_cons, List.length_append, List.length_cons]
    omega

theorem writeString_append (s : String) (rest : List Char) :
    writeString s ++ rest = '"' :: (s.toList.flatMap writeChar ++ '"' :: rest) := by
  simp [writeString]

theorem afterQuote_write (s : String) (rest : List Char) :
    afterQuote (s.toList.flatMap writeChar ++ '"' :: rest) = .ok (s, rest) := by
  have hfuel := length_le_flatMap_writeChar s.toList
  unfold afterQuote
  rw [stringBody_write s.toList (by rw [List.length_append, List.length_cons]; omega)]
  change Except.ok (String.ofList s.toList, rest) = _
  rw [String.ofList_toList]

theorem readsBack_string (s : String) : ReadsBack string s (.string s) := by
  intro rest
  change string (writeString s ++ rest) = _
  rw [writeString_append]
  exact afterQuote_write s rest

end Strings

/-! ## Lists -/

theorem compact_eq_cons (v : Value) :
    ∃ c cs, v.compact = c :: cs ∧ isSpace c = false ∧ c ≠ ']' ∧ c ≠ 'n' := by
  rcases v with b | n | s | vs | ms
  · cases b
    · exact ⟨'f', "alse".toList, rfl, rfl, by decide, by decide⟩
    · exact ⟨'t', "rue".toList, rfl, rfl, by decide, by decide⟩
  · obtain ⟨c, cs, hcs⟩ := List.exists_cons_of_ne_nil (Nat.toDigits_ne_nil (n := n) (b := 10))
    have hdigit : c.isDigit = true :=
      Nat.isDigit_of_mem_toDigits (by decide) (by decide) (hcs ▸ List.mem_cons_self)
    refine ⟨c, cs, hcs, ?_, ?_, ?_⟩
    · unfold isSpace
      simp only [Bool.or_eq_false_iff, beq_eq_false_iff_ne]
      refine ⟨⟨⟨?_, ?_⟩, ?_⟩, ?_⟩ <;> (rintro rfl; cases hdigit)
    · rintro rfl
      cases hdigit
    · rintro rfl
      cases hdigit
  · exact ⟨'"', _, rfl, rfl, by decide, by decide⟩
  · cases vs with
    | nil => exact ⟨'[', [']'], rfl, rfl, by decide, by decide⟩
    | cons v vs => exact ⟨'[', _, rfl, rfl, by decide, by decide⟩
  · cases ms with
    | nil => exact ⟨'\x7b', ['\x7d'], rfl, rfl, by decide, by decide⟩
    | cons m ms => exact ⟨'\x7b', _, rfl, rfl, by decide, by decide⟩

theorem skipSpace_cons {c : Char} (h : isSpace c = false) (cs : List Char) :
    skipSpace (c :: cs) = c :: cs := by
  simp [skipSpace, h]

section Lists

variable {α : Type} {read : Read α} {item : Nat → Read α} {write : α → Value}

/-- Written items up to the closing bracket, with a comma before all but the first one. -/
def itemsText (first : Bool) : List Value → List Char
  | [] => [']']
  | v :: vs => (if first then [] else [',']) ++ v.compact ++ compactItems vs

theorem compactItems_eq (vs : List Value) : compactItems vs = itemsText false vs := by
  cases vs <;> rfl

theorem compact_array (vs : List Value) : (Value.array vs).compact = '[' :: itemsText true vs := by
  cases vs <;> rfl

theorem length_lt_compactItems (vs : List Value) : vs.length < (compactItems vs).length := by
  induction vs with
  | nil => exact Nat.one_pos
  | cons v vs ih =>
    simp only [compactItems, List.cons_append, List.length_cons, List.length_append]
    omega

theorem length_lt_itemsText (vs : List Value) (rest : List Char) :
    vs.length < (itemsText true vs ++ rest).length + 1 := by
  cases vs with
  | nil => exact Nat.succ_pos _
  | cons v vs =>
    have hvs := length_lt_compactItems vs
    simp only [itemsText, List.length_cons, List.length_append]
    omega

theorem nextElement_itemsText (first : Bool) (v : Value) (vs : List Value) (rest : List Char) :
    nextElement first (itemsText first (v :: vs) ++ rest) =
      .ok (some (v.compact ++ (compactItems vs ++ rest))) := by
  obtain ⟨c, cs, hv, hspace, hbracket, -⟩ := compact_eq_cons v
  have hcomma : isSpace ',' = false := rfl
  simp only [itemsText, List.append_assoc, hv, List.cons_append]
  cases first <;> simp [nextElement, skipSpace_cons hspace, skipSpace_cons hcomma, hbracket]

theorem elements_itemsText {as : List α} (h : ∀ a ∈ as, ReadsBack read a (write a)) {fuel : Nat}
    (hfuel : as.length < fuel) (first : Bool) (rest : List Char) :
    elements read fuel first (itemsText first (as.map write) ++ rest) = .ok (as, rest) := by
  induction as generalizing fuel first with
  | nil =>
    obtain ⟨n, rfl⟩ := Nat.exists_eq_add_of_lt hfuel
    cases first <;> rfl
  | cons a as ih =>
    obtain ⟨n, rfl⟩ := Nat.exists_eq_add_of_lt hfuel
    have ha := h a List.mem_cons_self (compactItems (as.map write) ++ rest)
    have hn : as.length < as.length + 1 + n := by omega
    have has := ih (fun a ha => h a (List.mem_cons_of_mem _ ha)) hn false
    rw [← compactItems_eq] at has
    rw [List.map_cons, List.length_cons, elements, nextElement_itemsText]
    change read _ >>= _ = _
    rw [ha]
    change elements read _ false _ >>= _ = _
    rw [has]
    rfl

theorem readsBack_list {room : Nat} {as : List α}
    (h : ∀ a ∈ as, ReadsBack (item room) a (write a)) :
    ReadsBack (list (room + 1) item) as (.array (as.map write)) := by
  intro rest
  have hfuel := length_lt_itemsText (as.map write) rest
  rw [List.length_map] at hfuel
  rw [compact_array]
  exact elements_itemsText h hfuel true rest

theorem elements_ok {n : Nat} {first : Bool} {cs rest : List Char} {as : List α}
    (h : elements read n first cs = .ok (as, rest)) :
    ∀ a ∈ as, ∃ cs rest, read cs = .ok (a, rest) := by
  induction n generalizing first cs as with
  | zero => cases h
  | succ n ih =>
    rw [elements] at h
    obtain ⟨_ | next, -, h⟩ := bind_ok_iff.1 h
    · obtain ⟨after, -, h⟩ := bind_ok_iff.1 h
      cases h
      exact nofun
    · obtain ⟨⟨a, after⟩, ha, h⟩ := bind_ok_iff.1 h
      obtain ⟨⟨as', after'⟩, has, h⟩ := bind_ok_iff.1 h
      cases h
      exact List.forall_mem_cons.2 ⟨⟨_, _, ha⟩, ih has⟩

theorem Rereads.list {room : Nat} (h : ∀ n, room = n + 1 → Rereads (item n) write) :
    Rereads (list room item) fun as => .array (as.map write) := by
  intro cs as rest has
  unfold Json.list at has
  split at has
  · cases has
  · cases has
  · refine readsBack_list fun a ha => ?_
    obtain ⟨cs, rest, ha⟩ := elements_ok has a ha
    exact h _ rfl ha
  · cases has

end Lists

/-! ## Objects -/

section Members

/-- Written members up to the closing brace, with a comma before all but the first one. -/
def membersText (first : Bool) : List (String × Value) → List Char
  | [] => ['\x7d']
  | (k, v) :: ms =>
    (if first then [] else [',']) ++ writeString k ++ ':' :: v.compact ++ compactMembers ms

theorem compactMembers_eq (ms : List (String × Value)) :
    compactMembers ms = membersText false ms := by
  cases ms <;> rfl

theorem compact_object (ms : List (String × Value)) :
    (Value.object ms).compact = '\x7b' :: membersText true ms := by
  cases ms <;> rfl

theorem length_lt_compactMembers (ms : List (String × Value)) :
    ms.length < (compactMembers ms).length := by
  induction ms with
  | nil => exact Nat.one_pos
  | cons m ms ih =>
    simp only [compactMembers, List.cons_append, List.length_cons, List.length_append]
    omega

theorem length_lt_membersText (ms : List (String × Value)) (rest : List Char) :
    ms.length < (membersText true ms ++ rest).length + 1 := by
  cases ms with
  | nil => exact Nat.succ_pos _
  | cons m ms =>
    have hms := length_lt_compactMembers ms
    simp only [membersText, List.length_cons, List.length_append]
    omega

/-- What stands behind the opening quote of a key. -/
def afterKeyQuote (k : String) (v : Value) (ms : List (String × Value)) (rest : List Char) :
    List Char :=
  k.toList.flatMap writeChar ++ '"' :: ':' :: (v.compact ++ (compactMembers ms ++ rest))

theorem nextKey_membersText (first : Bool) (k : String) (v : Value) (ms : List (String × Value))
    (rest : List Char) :
    nextKey first (membersText first ((k, v) :: ms) ++ rest) =
      .ok (some (afterKeyQuote k v ms rest)) := by
  have htext : membersText first ((k, v) :: ms) ++ rest =
      (if first then [] else [',']) ++ '"' :: afterKeyQuote k v ms rest := by
    simp [membersText, afterKeyQuote, writeString]
  rw [htext]
  cases first <;> rfl

theorem afterQuote_afterKeyQuote (k : String) (v : Value) (ms : List (String × Value))
    (rest : List Char) : afterQuote (afterKeyQuote k v ms rest) =
      .ok (k, ':' :: (v.compact ++ (compactMembers ms ++ rest))) :=
  afterQuote_write k _

end Members

/-! ## Maps -/

section Maps

variable {α : Type} {read : Read α} {value : Nat → Read α} {write : α → Value}

/-- The members of a map. -/
def entries (write : α → Value) (ms : List (String × α)) : List (String × Value) :=
  ms.map fun m => (m.1, write m.2)

theorem members_membersText {ms : List (String × α)}
    (h : ∀ m ∈ ms, ReadsBack read m.2 (write m.2)) {fuel : Nat} (hfuel : ms.length < fuel)
    (first : Bool) (rest : List Char) :
    members read fuel first (membersText first (entries write ms) ++ rest) = .ok (ms, rest) := by
  induction ms generalizing fuel first with
  | nil =>
    obtain ⟨n, rfl⟩ := Nat.exists_eq_add_of_lt hfuel
    cases first <;> rfl
  | cons m ms ih =>
    obtain ⟨n, rfl⟩ := Nat.exists_eq_add_of_lt hfuel
    have hm := h m List.mem_cons_self (compactMembers (entries write ms) ++ rest)
    have hn : ms.length < ms.length + 1 + n := by omega
    have hms := ih (fun m hm => h m (List.mem_cons_of_mem _ hm)) hn false
    rw [← compactMembers_eq] at hms
    rw [entries, List.map_cons, List.length_cons, members, nextKey_membersText]
    change afterQuote _ >>= _ = _
    rw [afterQuote_afterKeyQuote]
    change read _ >>= _ = _
    rw [← entries, hm]
    change members read _ false _ >>= _ = _
    rw [hms]
    rfl

theorem members_ok {n : Nat} {first : Bool} {cs rest : List Char} {ms : List (String × α)}
    (h : members read n first cs = .ok (ms, rest)) :
    ∀ m ∈ ms, ∃ cs rest, read cs = .ok (m.2, rest) := by
  induction n generalizing first cs ms with
  | zero => cases h
  | succ n ih =>
    rw [members] at h
    obtain ⟨_ | next, -, h⟩ := bind_ok_iff.1 h
    · obtain ⟨after, -, h⟩ := bind_ok_iff.1 h
      cases h
      exact nofun
    · obtain ⟨⟨key, after⟩, -, h⟩ := bind_ok_iff.1 h
      obtain ⟨begin, -, h⟩ := bind_ok_iff.1 h
      obtain ⟨⟨a, after'⟩, ha, h⟩ := bind_ok_iff.1 h
      obtain ⟨⟨ms', after''⟩, hms, h⟩ := bind_ok_iff.1 h
      cases h
      exact List.forall_mem_cons.2 ⟨⟨_, _, ha⟩, ih hms⟩

/-- Keys are in order, each once. -/
def InOrder (ms : List (String × α)) : Prop := ms.Pairwise fun m m' => m.1 < m'.1

theorem mem_insertKey {key : String} {a : α} {ms : List (String × α)} {m : String × α}
    (h : m ∈ insertKey key a ms) : m = (key, a) ∨ m ∈ ms := by
  induction ms with
  | nil => exact .inl (List.mem_singleton.1 h)
  | cons m' ms ih =>
    rw [insertKey] at h
    split_ifs at h
    · exact List.mem_cons.1 h
    · exact (List.mem_cons.1 h).imp_right (List.mem_cons_of_mem _)
    · rcases List.mem_cons.1 h with rfl | h
      · exact .inr List.mem_cons_self
      · exact (ih h).imp_right (List.mem_cons_of_mem _)

theorem InOrder.insertKey {ms : List (String × α)} (h : InOrder ms) (key : String) (a : α) :
    InOrder (insertKey key a ms) := by
  induction ms with
  | nil => exact List.pairwise_singleton _ _
  | cons m ms ih =>
    obtain ⟨hm, hms⟩ := List.pairwise_cons.1 h
    rw [Json.insertKey]
    split_ifs with hlt heq
    · refine List.pairwise_cons.2 ⟨fun m' hm' => ?_, h⟩
      rcases List.mem_cons.1 hm' with rfl | hm'
      · exact hlt
      · exact String.lt_trans hlt (hm m' hm')
    · exact List.pairwise_cons.2 ⟨fun m' hm' => heq ▸ hm m' hm', hms⟩
    · refine List.pairwise_cons.2 ⟨fun m' hm' => ?_, ih hms⟩
      rcases mem_insertKey hm' with rfl | hm'
      · exact Std.lt_of_le_of_ne (String.not_lt.1 hlt) (Ne.symm heq)
      · exact hm m' hm'

/-- Put members into a sorted list one after the other. -/
def insertKeys (sorted ms : List (String × α)) : List (String × α) :=
  ms.foldl (fun sorted m => Json.insertKey m.1 m.2 sorted) sorted

theorem insertKeys_cons (sorted : List (String × α)) (m : String × α) (ms : List (String × α)) :
    insertKeys sorted (m :: ms) = insertKeys (Json.insertKey m.1 m.2 sorted) ms := rfl

theorem InOrder.insertKeys {sorted : List (String × α)} (h : InOrder sorted)
    (ms : List (String × α)) : InOrder (insertKeys sorted ms) := by
  induction ms generalizing sorted with
  | nil => exact h
  | cons m ms ih => exact ih (h.insertKey m.1 m.2)

theorem mem_insertKeys {sorted ms : List (String × α)} {m : String × α}
    (h : m ∈ insertKeys sorted ms) : m ∈ sorted ∨ m ∈ ms := by
  induction ms generalizing sorted with
  | nil => exact .inl h
  | cons m' ms ih =>
    rcases ih h with h | h
    · rcases mem_insertKey h with rfl | h
      · exact .inr List.mem_cons_self
      · exact .inl h
    · exact .inr (List.mem_cons_of_mem _ h)

theorem inOrder_sortKeys (ms : List (String × α)) : InOrder (sortKeys ms) :=
  InOrder.insertKeys List.Pairwise.nil ms

theorem mem_sortKeys {ms : List (String × α)} {m : String × α} (h : m ∈ sortKeys ms) : m ∈ ms :=
  (mem_insertKeys h).resolve_left List.not_mem_nil

theorem insertKey_eq_append {key : String} {a : α} {ms : List (String × α)}
    (h : ∀ m ∈ ms, m.1 < key) : Json.insertKey key a ms = ms ++ [(key, a)] := by
  induction ms with
  | nil => rfl
  | cons m ms ih =>
    obtain ⟨hm, hms⟩ := List.forall_mem_cons.1 h
    have hne : key ≠ m.1 := fun heq => String.lt_irrefl _ (heq ▸ hm)
    rw [Json.insertKey, if_neg (String.lt_asymm hm), if_neg hne, ih hms, List.cons_append]

theorem insertKeys_eq_append {sorted ms : List (String × α)} (h : InOrder (sorted ++ ms)) :
    insertKeys sorted ms = sorted ++ ms := by
  induction ms generalizing sorted with
  | nil => exact (List.append_nil sorted).symm
  | cons m ms ih =>
    have hlast : ∀ m' ∈ sorted, m'.1 < m.1 := fun m' hm' =>
      (List.pairwise_append.1 h).2.2 m' hm' m List.mem_cons_self
    rw [List.append_cons] at h ⊢
    rw [insertKeys_cons, insertKey_eq_append hlast, ih h]

theorem InOrder.sortKeys_eq {ms : List (String × α)} (h : InOrder ms) : sortKeys ms = ms :=
  insertKeys_eq_append h

theorem readsBack_map {room : Nat} {ms : List (String × α)} (hsorted : InOrder ms)
    (h : ∀ m ∈ ms, ReadsBack (value room) m.2 (write m.2)) :
    ReadsBack (map (room + 1) value) ms (.object (entries write ms)) := by
  intro rest
  have hfuel := length_lt_membersText (entries write ms) rest
  rw [entries, List.length_map, ← entries] at hfuel
  have hms := members_membersText h hfuel true rest
  rw [compact_object]
  change members (value room) ((membersText true (entries write ms) ++ rest).length + 1) true
    (membersText true (entries write ms) ++ rest) >>= _ = _
  rw [hms]
  change Except.ok (sortKeys ms, rest) = _
  rw [hsorted.sortKeys_eq]

theorem Rereads.map {room : Nat} (h : ∀ n, room = n + 1 → Rereads (value n) write) :
    Rereads (map room value) fun ms => .object (entries write ms) := by
  intro cs ms rest hms
  unfold Json.map at hms
  split at hms
  · cases hms
  · cases hms
  · obtain ⟨⟨ms', after⟩, hread, hms⟩ := bind_ok_iff.1 hms
    cases hms
    refine readsBack_map (inOrder_sortKeys ms') fun m hm => ?_
    obtain ⟨cs, rest, hm⟩ := members_ok hread m (mem_sortKeys hm)
    exact h _ rfl hm
  · cases hms

end Maps

/-! ## Records -/

/-- Whatever the field reads, setting it keeps the property. -/
def FieldReader.Keeps {σ : Type} (f : FieldReader σ) (P : σ → Prop) : Prop :=
  ∀ ⦃cs set rest⦄, f.read cs = .ok (set, rest) → ∀ a, P a → P (set a)

/-- The members lead a record from one value to another: each field in order has a member that it
reads back, or none where it may be missing. -/
inductive Writes {σ : Type} : List (FieldReader σ) → List (String × Value) → σ → σ → Prop
  | nil (a : σ) : Writes [] [] a a
  | skip {f : FieldReader σ} {fs : List (FieldReader σ)} {ms : List (String × Value)} {a b : σ} :
    f.isRequired = false → Writes fs ms a b → Writes (f :: fs) ms a b
  | field {f : FieldReader σ} {fs : List (FieldReader σ)} {ms : List (String × Value)} {a b : σ}
      {set : σ → σ} {v : Value} :
    ReadsBack f.read set v → Writes fs ms (set a) b → Writes (f :: fs) ((f.key, v) :: ms) a b

section Records

variable {σ α : Type} {fs before : List (FieldReader σ)} {f : FieldReader σ} {a b : σ}
  {cs cs' rest : List Char} {read : Read α} {set : α → σ → σ} {key : String}
  {ms : List (String × Value)}

theorem FieldReader.keeps_of {P : σ → Prop}
    (h : ∀ ⦃cs v rest⦄, read cs = .ok (v, rest) → ∀ a, P a → P (set v a)) :
    (FieldReader.of key read set).Keeps P := by
  intro cs set rest hread
  obtain ⟨⟨v, after⟩, hv, hread⟩ := bind_ok_iff.1 hread
  cases hread
  exact h hv

theorem recordMembers_ok {P : σ → Prop} (hfs : ∀ f ∈ fs, f.Keeps P) {n : Nat} {first : Bool}
    {seen : List String} (ha : P a)
    (h : recordMembers fs n first seen a cs = .ok (b, rest)) : P b := by
  induction n generalizing first seen a cs with
  | zero => cases h
  | succ n ih =>
    rw [recordMembers] at h
    obtain ⟨_ | next, -, h⟩ := bind_ok_iff.1 h
    · simp only [] at h
      split_ifs at h
      obtain ⟨after, -, h⟩ := bind_ok_iff.1 h
      cases h
      exact ha
    · obtain ⟨⟨key, after⟩, -, h⟩ := bind_ok_iff.1 h
      simp only [] at h
      split at h
      · obtain ⟨begin, -, h⟩ := bind_ok_iff.1 h
        obtain ⟨skipped, -, h⟩ := bind_ok_iff.1 h
        exact ih ha h
      · rename_i f hf
        split_ifs at h
        · cases h
        · obtain ⟨begin, -, h⟩ := bind_ok_iff.1 h
          obtain ⟨⟨set, after'⟩, hset, h⟩ := bind_ok_iff.1 h
          exact ih (hfs f (List.mem_of_find?_eq_some hf) hset a ha) h

theorem recordElements_ok {P : σ → Prop} (hfs : ∀ f ∈ fs, f.Keeps P) {first : Bool} (ha : P a)
    (h : recordElements fs first a cs = .ok (b, rest)) : P b := by
  induction fs generalizing first a cs with
  | nil =>
    obtain ⟨after, -, h⟩ := bind_ok_iff.1 h
    cases h
    exact ha
  | cons f fs ih =>
    obtain ⟨hf, hfs⟩ := List.forall_mem_cons.1 hfs
    rw [recordElements] at h
    obtain ⟨_ | next, -, h⟩ := bind_ok_iff.1 h
    · simp only [] at h
      split_ifs at h
      obtain ⟨after, -, h⟩ := bind_ok_iff.1 h
      cases h
      exact ha
    · obtain ⟨⟨set, after⟩, hset, h⟩ := bind_ok_iff.1 h
      exact ih hfs (hf hset a ha) h

/-- What holds at first and is kept by all fields holds of every record that was read. -/
theorem record_ok {P : σ → Prop} {room : Nat} {fields : Nat → List (FieldReader σ)}
    (hfields : ∀ n, room = n + 1 → ∀ f ∈ fields n, f.Keeps P) (ha : P a)
    (h : record room fields a cs = .ok (b, rest)) : P b := by
  unfold record at h
  split at h
  · cases h
  · cases h
  · cases h
  · exact recordElements_ok (hfields _ rfl) ha h
  · exact recordMembers_ok (hfields _ rfl) ha h
  · cases h

theorem find?_key (hkeys : ((before ++ f :: fs).map (·.key)).Nodup) :
    (before ++ f :: fs).find? (·.key == f.key) = some f := by
  rw [List.map_append, List.map_cons] at hkeys
  have hbefore : before.find? (·.key == f.key) = none := by
    refine List.find?_eq_none.2 fun g hg heq => ?_
    exact (List.nodup_append.1 hkeys).2.2 g.key (List.mem_map_of_mem hg) f.key
      List.mem_cons_self (eq_of_beq heq)
  rw [List.find?_append, hbefore, Option.none_or]
  exact List.find?_cons_of_pos (beq_self_eq_true f.key)

theorem recordMembers_field {fields : List (FieldReader σ)} {first : Bool} {seen : List String}
    {next : List Char} {set : σ → σ} (n : Nat)
    (hfind : fields.find? (·.key == key) = some f) (hnew : key ∉ seen)
    (hnext : nextKey first cs = .ok (some next)) (hkey : afterQuote next = .ok (key, ':' :: cs'))
    (hread : f.read cs' = .ok (set, rest)) :
    recordMembers fields (n + 1) first seen a cs =
      recordMembers fields n false (key :: seen) (set a) rest := by
  rw [recordMembers, hnext]
  change afterQuote next >>= _ = _
  rw [hkey]
  simp only [bind, Except.bind, hfind]
  change (if seen.contains key = true then _ else f.read cs' >>= _) = _
  rw [if_neg (by simpa using hnew), hread]
  rfl

/-- The keys seen so far are keys of the fields before, the required ones among them. -/
structure SeenOf (before : List (FieldReader σ)) (seen : List String) : Prop where
  known : ∀ k ∈ seen, k ∈ before.map (·.key)
  complete : complete before seen = true

theorem SeenOf.skip {seen : List String} (h : SeenOf before seen) (hf : f.isRequired = false) :
    SeenOf (before ++ [f]) seen where
  known k hk := by
    rw [List.map_append]
    exact List.mem_append_left _ (h.known k hk)
  complete := by
    refine List.all_append.trans ?_
    rw [← Json.complete, h.complete]
    simp [hf]

theorem SeenOf.field {seen : List String} (h : SeenOf before seen) (f : FieldReader σ) :
    SeenOf (before ++ [f]) (f.key :: seen) where
  known := by
    rw [List.map_append]
    refine List.forall_mem_cons.2 ⟨List.mem_append_right _ List.mem_cons_self, fun k hk => ?_⟩
    exact List.mem_append_left _ (h.known k hk)
  complete := by
    refine List.all_eq_true.2 fun g hg => ?_
    rw [Bool.or_eq_true, List.contains_iff_mem]
    rcases List.mem_append.1 hg with hg | hg
    · have hseen := List.all_eq_true.1 h.complete g hg
      rw [Bool.or_eq_true, List.contains_iff_mem] at hseen
      exact hseen.imp_right (List.mem_cons_of_mem _)
    · rw [List.mem_singleton.1 hg]
      exact .inr List.mem_cons_self

/-- A record is read back from its members, of which those of the fields before were read. -/
theorem Writes.recordMembers (h : Writes fs ms a b) {fields : List (FieldReader σ)}
    (hfields : fields = before ++ fs) (hkeys : (fields.map (·.key)).Nodup) {seen : List String}
    (hseen : SeenOf before seen) {fuel : Nat} (hfuel : ms.length < fuel) (first : Bool)
    (rest : List Char) :
    recordMembers fields fuel first seen a (membersText first ms ++ rest) = .ok (b, rest) := by
  induction h generalizing before seen fuel first with
  | nil a =>
    obtain ⟨n, rfl⟩ := Nat.exists_eq_add_of_lt hfuel
    rw [List.append_nil] at hfields
    subst hfields
    have hclose : Json.recordMembers fields (0 + n + 1) first seen a ('\x7d' :: rest) =
        if complete fields seen then .ok (a, rest) else .error .mistyped := by
      cases first <;> rfl
    exact hclose.trans (if_pos hseen.complete)
  | @skip f fs ms a b hf h ih =>
    -- The field is none that must have been seen.
    exact ih (hfields.trans (List.append_cons before f fs)) (hseen.skip hf) hfuel first
  | @field f fs ms a b set v hv h ih =>
    obtain ⟨n, rfl⟩ := Nat.exists_eq_add_of_lt hfuel
    subst hfields
    have hnew : f.key ∉ seen := by
      intro hk
      rw [List.map_append, List.map_cons] at hkeys
      exact (List.nodup_append.1 hkeys).2.2 f.key (hseen.known _ hk) f.key List.mem_cons_self rfl
    -- From here on the key counts as seen, and the commas begin.
    have hn : ms.length < ms.length + 1 + n := by omega
    have hnext := ih (List.append_cons before f fs) (hseen.field f) hn false
    rw [← compactMembers_eq] at hnext
    rw [List.length_cons, recordMembers_field _ (find?_key hkeys) hnew
      (nextKey_membersText first f.key v ms rest) (afterQuote_afterKeyQuote f.key v ms rest) (hv _)]
    exact hnext

theorem readsBack_record (room : Nat) (fields : Nat → List (FieldReader σ))
    (hkeys : ((fields room).map (·.key)).Nodup) (h : Writes (fields room) ms a b) :
    ReadsBack (record (room + 1) fields a) b (.object ms) := by
  intro rest
  rw [compact_object]
  exact h.recordMembers (List.nil_append _).symm hkeys ⟨List.forall_mem_nil _, rfl⟩
    (length_lt_membersText ms rest) true rest

/-! ### Fields that may have no member -/

theorem readsBack_field (key : String) {v : α} {w : Value} (hv : ReadsBack read v w) :
    ReadsBack (FieldReader.of key read set).read (set v) w := by
  intro rest
  change read _ >>= _ = _
  rw [hv]
  rfl

theorem Writes.value {v : α} {w : Value} (hv : ReadsBack read v w)
    (h : Writes fs ms (set v a) b) : Writes (.of key read set :: fs) ((key, w) :: ms) a b :=
  .field (f := .of key read set) (readsBack_field key hv) h

theorem Writes.required {v : α} {w : Value} (hv : ReadsBack read v w)
    (h : Writes fs ms (set v a) b) :
    Writes ((FieldReader.of key read set).required :: fs) ((key, w) :: ms) a b :=
  .field (f := (FieldReader.of key read set).required) (readsBack_field key hv) h

theorem optional_ok {v : Option α} (h : optional read cs = .ok (v, rest)) :
    ∀ a ∈ v, ∃ cs rest, read cs = .ok (a, rest) := by
  unfold optional at h
  split at h
  · obtain ⟨after, -, h⟩ := bind_ok_iff.1 h
    cases h
    exact nofun
  · obtain ⟨⟨a, after⟩, ha, h⟩ := bind_ok_iff.1 h
    cases h
    rintro a ⟨⟩
    exact ⟨_, _, ha⟩

theorem Rereads.of_optional {write : α → Value} (h : Rereads read write) {v : Option α}
    (hv : optional read cs = .ok (v, rest)) : ∀ x ∈ v, ReadsBack read x (write x) := by
  intro x hx
  obtain ⟨cs, rest, hx⟩ := optional_ok hv x hx
  exact h hx

theorem readsBack_some {v : α} {w : Value} (h : ReadsBack read v w) :
    ReadsBack (optional read) (some v) w := by
  intro rest
  obtain ⟨c, cs, hw, hspace, -, hnull⟩ := compact_eq_cons w
  have hread := h rest
  rw [hw, List.cons_append] at hread ⊢
  unfold optional
  rw [skipSpace_cons hspace]
  split
  · rename_i heq
    exact absurd (List.cons.inj heq).1 hnull
  · rw [hread]
    rfl

/-- An optional field has a member if it has a value. -/
theorem Writes.optional {v : Option α} {set : Option α → σ → σ} (write : α → Value)
    (hnone : set none a = a) (hv : ∀ x ∈ v, ReadsBack read x (write x))
    (h : Writes fs ms (set v a) b) :
    Writes (.of key (optional read) set :: fs)
      (v.toList.map (fun x => (key, write x)) ++ ms) a b := by
  cases v with
  | none =>
    rw [hnone] at h
    exact .skip rfl h
  | some x => exact .value (readsBack_some (hv x rfl)) h

end Records

end Scopelight.Json
