import Scopelight.Proofs.Shown

/-!
# Scopes of captures

While captures are open, each place gets the scopes of the innermost one that it is not behind
(`scopesAt`), and closing captures makes tokens with these scopes (`closeCaptures_shows`). Where the
groups of a match stand behind or inside each other, a capture stays open just as long as its group
lasts, and every group keeps it so when it has its turn (`Turn.next`). So each byte of the match
gets the names of the groups that it lies in (`emitCaptures_names_bytes`).
-/

namespace Scopelight

open Text

/-! ## Groups that took text -/

/-- Whether a place lies in a span. -/
def Regex.Span.has (span : Regex.Span) (i : Nat) : Bool := decide (span.start ≤ i ∧ i < span.stop)

def Regex.Span.Apart (a b : Regex.Span) : Prop := a.stop ≤ b.start ∨ b.stop ≤ a.start

def Regex.Span.Inside (a b : Regex.Span) : Prop := b.start ≤ a.start ∧ a.stop ≤ b.stop

instance (a b : Regex.Span) : Decidable (a.Apart b) := inferInstanceAs (Decidable (_ ∨ _))

instance (a b : Regex.Span) : Decidable (a.Inside b) := inferInstanceAs (Decidable (_ ∧ _))

/-- The groups of a match that took text and have a rule, in order. -/
def Regex.Match.captured (m : Regex.Match) (rules : CaptureRules) :
    List (Regex.Span × CaptureRule) :=
  rules.filterMap fun (n, rule) =>
    ((m.group? n).filter fun span => span.start < span.stop).map (·, rule)

/-- The groups that took text and have a rule lie inside the match and begin in order, and each two
are apart or the later one is inside the other. -/
structure Regex.Match.Nests (m : Regex.Match) (rules : CaptureRules) : Prop where
  inside : ∀ e ∈ m.captured rules, e.1.Inside m.whole
  ordered : (m.captured rules).Pairwise fun d e => d.1.start ≤ e.1.start
  nested : (m.captured rules).Pairwise fun d e => d.1.Apart e.1 ∨ e.1.Inside d.1

instance (m : Regex.Match) (rules : CaptureRules) : Decidable (m.Nests rules) :=
  decidable_of_iff
    ((∀ e ∈ m.captured rules, e.1.Inside m.whole) ∧
      ((m.captured rules).Pairwise fun d e => d.1.start ≤ e.1.start) ∧
      (m.captured rules).Pairwise fun d e => d.1.Apart e.1 ∨ e.1.Inside d.1)
    ⟨fun ⟨hi, ho, hn⟩ => ⟨hi, ho, hn⟩, fun h => ⟨h.inside, h.ordered, h.nested⟩⟩

/-- The names of the groups that are here, in order. -/
def namesOf (line : Array Char) (m : Regex.Match) (here : Regex.Span → Bool)
    (groups : List (Regex.Span × CaptureRule)) : List String :=
  (groups.filter fun e => here e.1).flatMap fun e => expandName e.2.name line m

section Groups

variable {line : Array Char} {m : Regex.Match} {here here' : Regex.Span → Bool} {n : Nat}
  {rule : CaptureRule} {span : Regex.Span} {groups more : List (Regex.Span × CaptureRule)}

theorem has_eq_false_of_lt {i : Nat} (h : i < span.start) : span.has i = false := by
  simp [Regex.Span.has, h]

theorem captured_cons_of_group (hn : m.group? n = some span) (hlt : span.start < span.stop)
    (rule : CaptureRule) (rules : CaptureRules) :
    m.captured ((n, rule) :: rules) = (span, rule) :: m.captured rules := by
  simp [Regex.Match.captured, hn, hlt]

theorem captured_cons_of_absent (hn : ∀ span, m.group? n = some span → span.stop ≤ span.start)
    (rule : CaptureRule) (rules : CaptureRules) :
    m.captured ((n, rule) :: rules) = m.captured rules := by
  rcases hg : m.group? n with _ | span
  · simp [Regex.Match.captured, hg]
  · simp [Regex.Match.captured, hg, hn span hg]

theorem namesOf_append : namesOf line m here (groups ++ more) =
    namesOf line m here groups ++ namesOf line m here more := by
  simp [namesOf]

theorem namesOf_singleton (span : Regex.Span) (rule : CaptureRule) :
    namesOf line m here [(span, rule)] = if here span then expandName rule.name line m else [] := by
  rcases h : here span <;> simp [namesOf, h]

theorem namesOf_congr (h : ∀ e ∈ groups, here e.1 = here' e.1) :
    namesOf line m here groups = namesOf line m here' groups := by
  unfold namesOf
  rw [List.filter_congr h]

theorem namesOf_eq_nil (h : ∀ e ∈ groups, here e.1 = false) : namesOf line m here groups = [] := by
  have hnone : (groups.filter fun e => here e.1) = [] :=
    List.filter_eq_nil_iff.2 fun e he => by simp [h e he]
  rw [namesOf, hnone, List.flatMap_nil]

end Groups

/-! ## What output gives to the places that it goes on to -/

/-- The second output goes on from the first one with tokens side by side, which give these scopes
to the places in them. -/
def Output.Shows (label : Nat → List String) (o o' : Output) : Prop :=
  ∃ new, o'.tokens = new ++ o.tokens ∧ Tiles o'.reached o.reached new.reverse ∧
    ∀ t ∈ new, ∀ i, t.start ≤ i → i < t.stop → t.scopes = label i

namespace Output

section Shows

variable {label label' : Nat → List String} {o o₁ o₂ : Output}

theorem Shows.trans (h : o.Shows label o₁) (h₁ : o₁.Shows label o₂) : o.Shows label o₂ := by
  obtain ⟨new, htokens, htiles, hlabel⟩ := h
  obtain ⟨new₁, htokens₁, htiles₁, hlabel₁⟩ := h₁
  refine ⟨new₁ ++ new, by rw [htokens₁, htokens, List.append_assoc], ?_, ?_⟩
  · rw [List.reverse_append]
    exact tiles_append.2 ⟨o₁.reached, htiles, htiles₁⟩
  · intro t ht
    exact (List.mem_append.1 ht).elim (hlabel₁ t) (hlabel t)

theorem Shows.congr (h : o.Shows label o₁)
    (heq : ∀ i, o.reached ≤ i → i < o₁.reached → label i = label' i) : o.Shows label' o₁ := by
  obtain ⟨new, htokens, htiles, hlabel⟩ := h
  refine ⟨new, htokens, htiles, fun t ht i hi hlt => ?_⟩
  obtain ⟨hstart, hstop⟩ := htiles.mem_bounds (List.mem_reverse.2 ht)
  rw [hlabel t ht i hi hlt, heq i (by omega) (by omega)]

theorem shows_produce {stop : Nat} {scopes : List String}
    (h : ∀ i, o.reached ≤ i → i < stop → scopes = label i) :
    o.Shows label (o.produce stop scopes) := by
  unfold produce
  split_ifs with hle
  · exact ⟨[], rfl, rfl, fun t ht => by simp at ht⟩
  · refine ⟨[⟨scopes, o.reached, stop⟩], rfl, ⟨rfl, by dsimp only; omega, rfl⟩, ?_⟩
    intro t ht
    obtain rfl := List.mem_singleton.1 ht
    exact h

end Shows

end Output

/-! ## Captures that are open -/

/-- The scopes of a place, if no captures are opened before it any more. -/
def scopesAt (s : State) (open_ : List OpenCapture) (i : Nat) : List String :=
  captureScopes s (open_.dropWhile fun c => c.stop ≤ i)

/-- The captures that are open after a group without rules of its own, if these were open where it
begins. -/
def openGroup (s : State) (line : Array Char) (m : Regex.Match) (rule : CaptureRule) (stop : Nat)
    (open_ : List OpenCapture) : List OpenCapture :=
  match expandName rule.name line m with
  | [] => open_
  | scopes => ⟨captureScopes s open_ ++ scopes, stop⟩ :: open_

section Open

variable {again : Retokenize} {s : State} {line : Array Char} {grammar : Nat} {m : Regex.Match}
  {firstLine : Bool} {rules : CaptureRules} {open_ open₁ : List OpenCapture} {o o₁ : Output}
  {c : OpenCapture} {i upTo : Nat}

theorem scopesAt_cons_of_lt (h : i < c.stop) : scopesAt s (c :: open_) i = c.scopes := by
  rw [scopesAt, List.dropWhile_cons_of_neg (by simpa using h)]
  rfl

theorem scopesAt_cons_of_le (h : c.stop ≤ i) : scopesAt s (c :: open_) i = scopesAt s open_ i := by
  rw [scopesAt, List.dropWhile_cons_of_pos (by simpa using h)]
  rfl

theorem scopesAt_dropWhile (h : upTo ≤ i) :
    scopesAt s (open_.dropWhile fun c => c.stop ≤ upTo) i = scopesAt s open_ i := by
  induction open_ with
  | nil => rfl
  | cons c cs ih =>
    by_cases hc : c.stop ≤ upTo
    · rw [List.dropWhile_cons_of_pos (by simpa using hc), ih, scopesAt_cons_of_le (by omega)]
    · rw [List.dropWhile_cons_of_neg (by simpa using hc)]

theorem scopesAt_openGroup {rule : CaptureRule} {stop : Nat}
    (hlast : i < stop → scopesAt s open_ i = captureScopes s open_) :
    scopesAt s (openGroup s line m rule stop open_) i =
      scopesAt s open_ i ++ if i < stop then expandName rule.name line m else [] := by
  unfold openGroup
  split
  · rename_i hname
    simp [hname]
  · by_cases hi : i < stop
    · rw [scopesAt_cons_of_lt hi, if_pos hi, hlast hi]
    · rw [scopesAt_cons_of_le (by simpa using hi), if_neg hi, List.append_nil]

theorem closeCaptures_fst (h : closeCaptures upTo open_ o = (open₁, o₁)) :
    open₁ = open_.dropWhile fun c => c.stop ≤ upTo := by
  induction open_ generalizing o with
  | nil => cases h; rfl
  | cons c cs ih =>
    unfold closeCaptures at h
    split_ifs at h with hc
    · rw [List.dropWhile_cons_of_pos (by simpa using hc)]
      exact ih h
    · cases h
      rw [List.dropWhile_cons_of_neg (by simpa using hc)]

/-- Closing the captures that end before a place, and giving the rest up to it what is around it,
makes tokens with the scopes of the open captures. -/
theorem closeCaptures_shows (hle : o.reached ≤ upTo)
    (h : closeCaptures upTo open_ o = (open₁, o₁)) :
    (o₁.produce upTo (captureScopes s open₁)).reached = upTo ∧
      o.Shows (scopesAt s open_) (o₁.produce upTo (captureScopes s open₁)) := by
  induction open_ generalizing o with
  | nil =>
    cases h
    refine ⟨?_, Output.shows_produce fun i _ _ => rfl⟩
    rw [Output.reached_produce, Nat.max_eq_right hle]
  | cons c cs ih =>
    unfold closeCaptures at h
    split_ifs at h with hc
    · have hreached := o.reached_produce c.stop c.scopes
      obtain ⟨hend, hshows⟩ := ih (by omega) h
      refine ⟨hend, ?_⟩
      have hfirst : o.Shows (scopesAt s (c :: cs)) (o.produce c.stop c.scopes) :=
        Output.shows_produce fun i _ hi => (scopesAt_cons_of_lt hi).symm
      exact hfirst.trans (hshows.congr fun i hi _ => (scopesAt_cons_of_le (by omega)).symm)
    · cases h
      refine ⟨?_, Output.shows_produce fun i _ hi => (scopesAt_cons_of_lt (by omega)).symm⟩
      rw [Output.reached_produce, Nat.max_eq_right hle]

theorem closeCaptures_all (h : ∀ c ∈ open_, c.stop ≤ upTo) :
    closeCaptures upTo open_ o = ([], closeAll open_ o) := by
  induction open_ generalizing o with
  | nil => rfl
  | cons c cs ih =>
    rw [closeCaptures, if_pos (h c List.mem_cons_self)]
    exact ih fun d hd => h d (List.mem_cons_of_mem c hd)

theorem emitGroups_of_absent {n : Nat} (rule : CaptureRule)
    (hn : ∀ span, m.group? n = some span → span.stop ≤ span.start) :
    emitGroups again s line grammar m firstLine ((n, rule) :: rules) open_ o =
      emitGroups again s line grammar m firstLine rules open_ o := by
  rcases hg : m.group? n with _ | span
  · simp only [emitGroups, hg]
  · simp only [emitGroups, hg, if_pos (hn span hg)]

theorem emitGroups_of_group {n : Nat} {rule : CaptureRule} {span : Regex.Span}
    (hn : m.group? n = some span) (hlt : span.start < span.stop) (hrule : rule.patterns = none)
    (hclose : closeCaptures span.start open_ o = (open₁, o₁)) :
    emitGroups again s line grammar m firstLine ((n, rule) :: rules) open_ o =
      emitGroups again s line grammar m firstLine rules (openGroup s line m rule span.stop open₁)
        (o₁.produce span.start (captureScopes s open₁)) := by
  rcases hname : expandName rule.name line m with _ | ⟨name, names⟩
  · simp only [emitGroups, hn, if_neg (Nat.not_le.2 hlt), hclose, hrule, openGroup, hname]
    rfl
  · simp only [emitGroups, hn, if_neg (Nat.not_le.2 hlt), hclose, hrule, openGroup, hname]
    rfl

end Open

/-! ## Groups behind and inside each other -/

/-- The groups before have had their turns and those later have not. Those later begin where the
output has not come yet, and from there on the open captures give each place the names of the groups
before that it lies in. -/
structure Turn (s : State) (line : Array Char) (m : Regex.Match)
    (before later : List (Regex.Span × CaptureRule)) (open_ : List OpenCapture) (o : Output) :
    Prop where
  reached : o.reached ≤ m.stop
  bounds : ∀ e ∈ later, o.reached ≤ e.1.start ∧ e.1.stop ≤ m.stop
  ordered : (before ++ later).Pairwise fun d e => d.1.start ≤ e.1.start
  nested : (before ++ later).Pairwise fun d e => d.1.Apart e.1 ∨ e.1.Inside d.1
  stops : ∀ c ∈ open_, c.stop ≤ m.stop
  scopes : ∀ i, o.reached ≤ i → scopesAt s open_ i = s.scopes ++ namesOf line m (·.has i) before

section Nests

variable {s : State} {line : Array Char} {m : Regex.Match} {rules : CaptureRules}
  {open_ open₁ : List OpenCapture} {o o₁ : Output} {span : Regex.Span} {rule : CaptureRule}
  {before later : List (Regex.Span × CaptureRule)}

theorem has_eq_of_nested {d e : Regex.Span} {i : Nat} (hordered : d.start ≤ e.start)
    (hnested : d.Apart e ∨ e.Inside d) (hi : e.has i = true) : d.has i = d.has e.start := by
  simp only [Regex.Span.Apart, Regex.Span.Inside, Regex.Span.has, decide_eq_true_eq] at hnested hi
  simp only [Regex.Span.has, decide_eq_decide]
  omega

theorem Turn.scopes_next (h : Turn s line m before ((span, rule) :: later) open_ o) {i : Nat}
    (hi : span.start ≤ i) (hopen : open₁ = open_.dropWhile fun c => c.stop ≤ span.start) :
    scopesAt s (openGroup s line m rule span.stop open₁) i =
      s.scopes ++ namesOf line m (·.has i) (before ++ [(span, rule)]) := by
  have hstart : o.reached ≤ span.start := (h.bounds _ List.mem_cons_self).1
  have hhas : span.has i = decide (i < span.stop) := by simp [Regex.Span.has, hi]
  -- a group that is open where this one begins stays open as long as this one
  have hlast : i < span.stop → scopesAt s open₁ i = captureScopes s open₁ := by
    intro hlt
    have hsame : ∀ d ∈ before, d.1.has i = d.1.has span.start := by
      intro d hd
      have hordered := (List.pairwise_append.1 h.ordered).2.2 d hd _ List.mem_cons_self
      have hnested := (List.pairwise_append.1 h.nested).2.2 d hd _ List.mem_cons_self
      exact has_eq_of_nested hordered hnested (by simpa [hhas] using hlt)
    have hnames : namesOf line m (·.has i) before = namesOf line m (·.has span.start) before :=
      namesOf_congr hsame
    calc scopesAt s open₁ i = scopesAt s open_ i := by rw [hopen, scopesAt_dropWhile hi]
      _ = s.scopes ++ namesOf line m (·.has span.start) before := by
        rw [h.scopes i (by omega), hnames]
      _ = scopesAt s open_ span.start := (h.scopes span.start hstart).symm
      _ = captureScopes s open₁ := by rw [hopen, scopesAt]
  rw [scopesAt_openGroup hlast, hopen, scopesAt_dropWhile hi, h.scopes i (by omega),
    namesOf_append, namesOf_singleton, hhas, List.append_assoc]
  simp

/-- After its turn a group is one of those before. -/
theorem Turn.next (h : Turn s line m before ((span, rule) :: later) open_ o)
    (hlt : span.start < span.stop) (hclose : closeCaptures span.start open_ o = (open₁, o₁)) :
    Turn s line m (before ++ [(span, rule)]) later (openGroup s line m rule span.stop open₁)
      (o₁.produce span.start (captureScopes s open₁)) := by
  obtain ⟨hspan, hbounds⟩ := List.forall_mem_cons.1 h.bounds
  obtain ⟨hstart, hstop⟩ : o.reached ≤ span.start ∧ span.stop ≤ m.stop := hspan
  have hopen := closeCaptures_fst hclose
  obtain ⟨hreached, -⟩ := closeCaptures_shows (s := s) hstart hclose
  obtain ⟨-, hlater, -⟩ := List.pairwise_append.1 h.ordered
  have hbehind : ∀ e ∈ later, span.start ≤ e.1.start := (List.pairwise_cons.1 hlater).1
  have hclosed : ∀ c ∈ open₁, c.stop ≤ m.stop := fun c hc =>
    h.stops c (List.dropWhile_subset _ (hopen ▸ hc))
  constructor
  case reached =>
    rw [hreached]
    omega
  case bounds =>
    intro e he
    rw [hreached]
    exact ⟨hbehind e he, (hbounds e he).2⟩
  case ordered =>
    rw [← List.append_cons]
    exact h.ordered
  case nested =>
    rw [← List.append_cons]
    exact h.nested
  case stops =>
    unfold openGroup
    split
    · exact hclosed
    · exact List.forall_mem_cons.2 ⟨hstop, hclosed⟩
  case scopes =>
    intro i hi
    rw [hreached] at hi
    exact h.scopes_next hi hopen

/-- Up to where the next group begins, the output gives the names of all groups. -/
theorem Turn.shows (h : Turn s line m before ((span, rule) :: later) open_ o)
    (hclose : closeCaptures span.start open_ o = (open₁, o₁)) :
    o.Shows (fun i => s.scopes ++ namesOf line m (·.has i) (before ++ (span, rule) :: later))
      (o₁.produce span.start (captureScopes s open₁)) := by
  have hstart : o.reached ≤ span.start := (h.bounds _ List.mem_cons_self).1
  obtain ⟨hreached, hshows⟩ := closeCaptures_shows (s := s) hstart hclose
  refine hshows.congr fun i hi hlt => ?_
  rw [hreached] at hlt
  obtain ⟨-, hlater, -⟩ := List.pairwise_append.1 h.ordered
  have hnone : ∀ e ∈ (span, rule) :: later, e.1.has i = false :=
    List.forall_mem_cons.2 ⟨has_eq_false_of_lt hlt, fun e he =>
      has_eq_false_of_lt (Nat.lt_of_lt_of_le hlt ((List.pairwise_cons.1 hlater).1 e he))⟩
  have hnames : namesOf line m (·.has i) ((span, rule) :: later) = [] := namesOf_eq_nil hnone
  rw [h.scopes i hi, namesOf_append, hnames, List.append_nil]

theorem Turn.close (h : Turn s line m before [] open_ o) :
    ((closeAll open_ o).produce m.stop s.scopes).reached = m.stop ∧
      o.Shows (fun i => s.scopes ++ namesOf line m (·.has i) before)
        ((closeAll open_ o).produce m.stop s.scopes) := by
  obtain ⟨hreached, hshows⟩ := closeCaptures_shows (s := s) h.reached (closeCaptures_all h.stops)
  exact ⟨hreached, hshows.congr fun i hi _ => h.scopes i hi⟩

/-- When all groups have had their turns, the output gives their names up to the end of the
match. -/
theorem emitGroups_shows (again : Retokenize) (grammar : Nat) (firstLine : Bool)
    (hflat : ∀ e ∈ rules, e.2.patterns = none)
    (h : Turn s line m before (m.captured rules) open_ o) :
    ∃ o', emitGroups again s line grammar m firstLine rules open_ o = .ok o' ∧
      (o'.produce m.stop s.scopes).reached = m.stop ∧
      o.Shows (fun i => s.scopes ++ namesOf line m (·.has i) (before ++ m.captured rules))
        (o'.produce m.stop s.scopes) := by
  induction rules generalizing before open_ o with
  | nil =>
    rw [show m.captured [] = [] from rfl] at h ⊢
    obtain ⟨hreached, hshows⟩ := h.close
    exact ⟨closeAll open_ o, rfl, hreached, by rwa [List.append_nil]⟩
  | cons entry rest ih =>
    obtain ⟨n, rule⟩ := entry
    have hrest : ∀ e ∈ rest, e.2.patterns = none := fun e he => hflat e (List.mem_cons_of_mem _ he)
    by_cases habsent : ∀ span, m.group? n = some span → span.stop ≤ span.start
    · rw [captured_cons_of_absent habsent] at h ⊢
      rw [emitGroups_of_absent rule habsent]
      exact ih hrest h
    · obtain ⟨span, hn, hlt⟩ : ∃ span, m.group? n = some span ∧ span.start < span.stop := by
        simpa using habsent
      rw [captured_cons_of_group hn hlt] at h ⊢
      rcases hclose : closeCaptures span.start open_ o with ⟨open₁, o₁⟩
      obtain ⟨o', ho', hreached, hshows⟩ := ih hrest (h.next hlt hclose)
      rw [← List.append_cons] at hshows
      refine ⟨o', ?_, hreached, (h.shows hclose).trans hshows⟩
      rw [emitGroups_of_group hn hlt (hflat _ List.mem_cons_self) hclose, ho']

end Nests

/-! ## Bytes -/

/-- A span of places as a span of bytes has a byte if it has the place of the character that the
byte belongs to. -/
theorem spanBytes_has {cs : List Char} {i byte : Nat} (hle : byteOffset cs i ≤ byte)
    (hlt : byte < byteOffset cs (i + 1)) (span : Regex.Span) :
    (Pattern.spanBytes cs span).has byte = span.has i := by
  have hiff : ∀ j, byteOffset cs j ≤ byte ↔ j ≤ i := by
    intro j
    constructor
    · intro hj
      by_contra hij
      have := byteOffset_mono cs (show i + 1 ≤ j by omega)
      omega
    · intro hij
      exact Nat.le_trans (byteOffset_mono cs hij) hle
  simp only [Regex.Span.has, Pattern.spanBytes, ← Nat.not_le, hiff]

theorem exists_place_of_byte {cs : List Char} {start stop byte : Nat}
    (hstart : byteOffset cs start ≤ byte) (hstop : byte < byteOffset cs stop) :
    ∃ i, start ≤ i ∧ i < stop ∧ byteOffset cs i ≤ byte ∧ byte < byteOffset cs (i + 1) := by
  induction stop with
  | zero => simp [byteOffset, byteLength] at hstop
  | succ stop ih =>
    by_cases hlt : byte < byteOffset cs stop
    · obtain ⟨i, hi, hlti, hbyte⟩ := ih hlt
      exact ⟨i, hi, by omega, hbyte⟩
    · refine ⟨stop, ?_, Nat.lt_succ_self _, by omega, hstop⟩
      by_contra hstop'
      have := byteOffset_mono cs (show stop + 1 ≤ start by omega)
      omega

def Token.bytes (line : Array Char) (t : Token) : Regex.Span :=
  Pattern.spanBytes line.toList ⟨t.start, t.stop⟩

/-- Where the groups of a match that have rules are apart or inside each other, and no group is
tokenized again, the tokens of the match lie side by side in it, and each byte of the match is in a
token that has, after the scopes of the state, the names of just the groups that the byte lies in,
in order. -/
theorem emitCaptures_names_bytes (again : Retokenize) (s : State) (line : Array Char)
    (grammar : Nat) (firstLine : Bool) (o : Output) {rules : CaptureRules} {m : Regex.Match}
    (hflat : ∀ e ∈ rules, e.2.patterns = none) (hm : m.start ≤ m.stop) (hnests : m.Nests rules)
    (ho : o.reached = m.start) :
    ∃ o' new, emitCaptures again s line grammar rules m firstLine o = .ok o' ∧
      (o'.produce m.stop s.scopes).tokens = new ++ o.tokens ∧ Tiles m.stop m.start new.reverse ∧
      ∀ byte, (Pattern.spanBytes line.toList m.whole).has byte = true →
        ∃ t ∈ new, (t.bytes line).has byte = true ∧ t.scopes = s.scopes ++
          namesOf line m (fun span => (Pattern.spanBytes line.toList span).has byte)
            (m.captured rules) := by
  have hturn : Turn s line m [] (m.captured rules) [] o :=
    { reached := ho ▸ hm
      bounds := fun e he => ⟨ho ▸ (hnests.inside e he).1, (hnests.inside e he).2⟩
      ordered := hnests.ordered
      nested := hnests.nested
      stops := fun c hc => by simp at hc
      scopes := fun i _ => by simp [scopesAt, captureScopes, namesOf] }
  obtain ⟨o', ho', hreached, new, htokens, htiles, hscopes⟩ :=
    emitGroups_shows again grammar firstLine hflat hturn
  rw [hreached, ho] at htiles
  refine ⟨o', new, ho', htokens, htiles, fun byte hbyte => ?_⟩
  obtain ⟨hfirst, hlast⟩ := of_decide_eq_true hbyte
  obtain ⟨i, hi, hlti, hbyte⟩ := exists_place_of_byte hfirst hlast
  have hhas := spanBytes_has hbyte.1 hbyte.2
  obtain ⟨t, ht, hstart, hstop⟩ := htiles.exists_mem hi hlti
  rw [List.mem_reverse] at ht
  refine ⟨t, ht, ?_, ?_⟩
  · rw [Token.bytes, hhas]
    simp [Regex.Span.has, hstart, hstop]
  · rw [hscopes t ht i hstart hstop, List.nil_append]
    exact congrArg (s.scopes ++ ·) (namesOf_congr fun e _ => (hhas e.1).symm)

/-- Names for groups inside each other, for one without text, and one that gives no scopes. -/
def letterCaptures : CaptureRules :=
  [(1, "outer"), (2, "inner $2"), (3, "absent"), (4, "")].map fun (n, name) =>
    (n, ⟨some ⟨name⟩, none, none⟩)

theorem nested_groups_name_letter :
    ∃ p m o' new, Pattern.compile "((é)b)(c)?(d)" = .ok p ∧
      p.search (matchedLine "ébd".toList) 0 ⟨true, none⟩ = some m ∧ m.Nests letterCaptures ∧
      emitCaptures (fun _ _ _ _ => .error .stepLimit) (.initial ⟨0, 0⟩ "source.t")
        (matchedLine "ébd".toList) 0 letterCaptures m true (.startAt m.start) = .ok o' ∧
      (o'.produce m.stop ["source.t"]).tokens = new ++ [] ∧ Tiles m.stop m.start new.reverse ∧
      ∃ t ∈ new, (t.bytes (matchedLine "ébd".toList)).has 1 = true ∧
        t.scopes = ["source.t", "outer", "inner", "é"] := by
  have hrun : (Pattern.compile "((é)b)(c)?(d)").toOption.any (fun p =>
      (p.search (matchedLine "ébd".toList) 0 ⟨true, none⟩).any fun m =>
        decide (m.start ≤ m.stop) && decide (m.Nests letterCaptures) &&
        (Pattern.spanBytes (matchedLine "ébd".toList).toList m.whole).has 1 &&
        (namesOf (matchedLine "ébd".toList) m
          (fun span => (Pattern.spanBytes (matchedLine "ébd".toList).toList span).has 1)
          (m.captured letterCaptures) == ["outer", "inner", "é"])) = true := by decide +kernel
  obtain ⟨p, hp, hrun⟩ := exists_ok_of_any hrun
  simp only [Option.any_eq_true, Bool.and_eq_true, decide_eq_true_eq, beq_iff_eq] at hrun
  obtain ⟨m, hm, ⟨⟨hle, hnests⟩, hbyte⟩, hnames⟩ := hrun
  obtain ⟨o', new, ho', htokens, htiles, hbytes⟩ := emitCaptures_names_bytes
    (fun _ _ _ _ => .error .stepLimit) (.initial ⟨0, 0⟩ "source.t") (matchedLine "ébd".toList) 0
    true (.startAt m.start) (by decide) hle hnests rfl
  obtain ⟨t, ht, hhas, hscopes⟩ := hbytes 1 hbyte
  rw [hnames] at hscopes
  exact ⟨p, m, o', new, hp, hm, hnests, ho', htokens, htiles, t, ht, hhas, hscopes⟩

end Scopelight
