import Mathlib.Tactic.Common
import Scopelight.Proofs.Match
import Scopelight.Proofs.Memory
import Scopelight.Proofs.Step
import Scopelight.Proofs.Tiles

/-!
# Tokens cover the text

Output only grows at its end, so it tiles what it has reached, and no match reaches past the end of
the line. Scopes are made by adding to the scopes of what is open, so the scope of the document comes
first in all of them. Both hold of a part of a line that is tokenized again (`retokenize_covers`), of
lines and of documents (`tokens_cover`).
-/

namespace Scopelight

open Text

theorem head?_append_of_eq {scope : String} {scopes : List String} (h : scopes.head? = some scope)
    (more : List String) : (scopes ++ more).head? = some scope := by
  rw [List.head?_append, h, Option.some_or]

/-- The scopes of a frame begin with this one. -/
structure Frame.Below (scope : String) (f : Frame) : Prop where
  name : f.nameScopes.head? = some scope
  content : f.contentScopes.head? = some scope

/-- The scopes of all frames begin with this one. -/
def State.Below (scope : String) (s : State) : Prop := ∀ f ∈ s.frames, f.Below scope

section Below

variable {scope : String} {s : State}

theorem State.Below.top (hs : s.Below scope) : s.top.Below scope := by
  rcases hr : s.regions with _ | ⟨f, fs⟩
  · exact hs _ (by simp [State.top, State.frames, hr])
  · exact hs _ (by simp [State.top, State.frames, hr])

theorem State.Below.scopes (hs : s.Below scope) : s.scopes.head? = some scope := hs.top.content

theorem State.Below.push (hs : s.Below scope) {f : Frame} (hf : f.Below scope) :
    (s.push f).Below scope := by
  intro g hg
  rcases List.mem_cons.1 hg with rfl | hg
  · exact hf
  · exact hs g hg

theorem State.Below.forgetPlaces (hs : s.Below scope) : s.forgetPlaces.Below scope := by
  intro f hf
  simp only [State.frames, State.forgetPlaces, List.mem_append, List.mem_map,
    List.mem_singleton] at hf
  rcases hf with ⟨g, hg, rfl⟩ | rfl
  · obtain ⟨hname, hcontent⟩ := hs g (List.mem_append_left _ hg)
    exact ⟨hname, hcontent⟩
  · obtain ⟨hname, hcontent⟩ := hs s.document (List.mem_append_right _ (List.mem_singleton_self _))
    exact ⟨hname, hcontent⟩

/-- The state without its innermost region, and with that one at its closing match. -/
theorem State.Below.close (hs : s.Below scope) {f : Frame} {fs : List Frame}
    (hregions : s.regions = f :: fs) : State.Below scope ⟨s.document, fs⟩ ∧
      State.Below scope ⟨s.document, { f with contentScopes := f.nameScopes } :: fs⟩ := by
  have hframes : s.frames = f :: (fs ++ [s.document]) := by
    simp [State.frames, hregions]
  have hf : f.Below scope := hs f (by simp [hframes])
  have hrest : State.Below scope ⟨s.document, fs⟩ := by
    intro g hg
    exact hs g (by rw [hframes]; exact List.mem_cons_of_mem f hg)
  exact ⟨hrest, hrest.push ⟨hf.name, hf.name⟩⟩

theorem below_initial (root : RuleRef) (scope : String) :
    (State.initial root scope).Below scope := by
  intro f hf
  obtain rfl := List.mem_singleton.1 hf
  exact ⟨rfl, rfl⟩

theorem below_openFrame {c : Cursor} (hc : c.state.Below scope) (line : Array Char) (ref : RuleRef)
    (rule : Rule) (m : Regex.Match) : (Scanner.openFrame c line ref rule m).Below scope :=
  ⟨head?_append_of_eq hc.scopes _, head?_append_of_eq hc.scopes _⟩

end Below

/-! ## Output -/

/-- The output tiles what it has reached from its start on, and its scopes begin with this one. -/
structure Output.Covers (scope : String) (start size : Nat) (o : Output) : Prop where
  tiles : Tiles o.reached start o.tokens.reverse
  bounded : o.reached ≤ size
  outermost : ∀ t ∈ o.tokens, t.scopes.head? = some scope

section Output

variable {scope : String} {start size : Nat} {o : Output}

theorem covers_startAt (h : start ≤ size) : (Output.startAt start).Covers scope start size :=
  ⟨rfl, h, fun t ht => by simp [Output.startAt] at ht⟩

theorem Output.Covers.produce (ho : o.Covers scope start size) {stop : Nat} (hstop : stop ≤ size)
    {scopes : List String} (hs : scopes.head? = some scope) :
    (o.produce stop scopes).Covers scope start size := by
  unfold Output.produce
  split_ifs with hle
  · exact ho
  · refine ⟨?_, hstop, ?_⟩
    · rw [List.reverse_cons]
      exact tiles_append.2 ⟨o.reached, ho.tiles, rfl, by dsimp only; omega, rfl⟩
    · intro t ht
      rcases List.mem_cons.1 ht with rfl | ht
      · exact hs
      · exact ho.outermost t ht

theorem Output.Covers.stop_le (ho : o.Covers scope start size) {t : Token} (ht : t ∈ o.tokens) :
    t.stop ≤ size :=
  Nat.le_trans (ho.tiles.mem_bounds (List.mem_reverse.2 ht)).2 ho.bounded

theorem Output.Covers.produce_reached (ho : o.Covers scope start size) (scopes : List String) :
    (o.produce size scopes).reached = size := by
  unfold Output.produce
  split_ifs with hle
  · exact Nat.le_antisymm ho.bounded hle
  · rfl

theorem Output.Covers.foldl_produce (ts : List Token)
    (hts : ∀ t ∈ ts, t.stop ≤ size ∧ t.scopes.head? = some scope) :
    ∀ {o : Output}, o.Covers scope start size →
      (ts.foldl (fun o t => o.produce t.stop t.scopes) o).Covers scope start size := by
  induction ts with
  | nil => exact fun ho => ho
  | cons t ts ih =>
    intro o ho
    obtain ⟨hstop, hs⟩ := hts t List.mem_cons_self
    exact ih (fun u hu => hts u (List.mem_cons_of_mem t hu)) (ho.produce hstop hs)

theorem Output.Covers.absorb (ho : o.Covers scope start size) {part : Output} {from_ size' : Nat}
    (hp : part.Covers scope from_ size') (hsize : size' ≤ size) :
    (o.absorb part).Covers scope start size := by
  refine foldl_produce _ ?_ ho
  intro t ht
  rw [List.mem_reverse] at ht
  exact ⟨Nat.le_trans (hp.stop_le ht) hsize, hp.outermost t ht⟩

end Output

/-! ## Captures -/

/-- Tokenizing a part again covers it from where it starts. -/
def Retokenize.Covers (scope : String) (again : Retokenize) : Prop :=
  ∀ s part start firstLine o, s.Below scope → start ≤ part.size →
    again s part start firstLine = .ok o → o.Covers scope start part.size

/-- Captures that are open end in the text, and their scopes begin with this one. -/
def OpenBelow (scope : String) (size : Nat) (open_ : List OpenCapture) : Prop :=
  ∀ c ∈ open_, c.stop ≤ size ∧ c.scopes.head? = some scope

section Captures

variable {scope : String} {start size : Nat} {open_ : List OpenCapture} {o : Output}

theorem OpenBelow.tail {c : OpenCapture} (h : OpenBelow scope size (c :: open_)) :
    OpenBelow scope size open_ :=
  fun d hd => h d (List.mem_cons_of_mem c hd)

theorem OpenBelow.captureScopes (hopen : OpenBelow scope size open_) {s : State}
    (hs : s.Below scope) : (captureScopes s open_).head? = some scope := by
  cases open_ with
  | nil => exact hs.scopes
  | cons c cs => exact (hopen c List.mem_cons_self).2

theorem closeCaptures_covers {upTo : Nat} {open₁ : List OpenCapture} {o₁ : Output}
    (h : closeCaptures upTo open_ o = (open₁, o₁)) (hopen : OpenBelow scope size open_)
    (ho : o.Covers scope start size) :
    OpenBelow scope size open₁ ∧ o₁.Covers scope start size := by
  induction open_ generalizing o with
  | nil =>
    cases h
    exact ⟨hopen, ho⟩
  | cons c cs ih =>
    obtain ⟨hstop, hs⟩ := hopen c List.mem_cons_self
    unfold closeCaptures at h
    split_ifs at h
    · exact ih h hopen.tail (ho.produce hstop hs)
    · cases h
      exact ⟨hopen, ho⟩

theorem closeAll_covers (hopen : OpenBelow scope size open_) (ho : o.Covers scope start size) :
    (closeAll open_ o).Covers scope start size := by
  unfold closeAll
  induction open_ generalizing o with
  | nil => exact ho
  | cons c cs ih =>
    obtain ⟨hstop, hs⟩ := hopen c List.mem_cons_self
    exact ih hopen.tail (ho.produce hstop hs)

variable {again : Retokenize} {s : State} {line : Array Char} {grammar : Nat} {m : Regex.Match}
  {firstLine : Bool} {rules : CaptureRules} {o' : Output}

/-- A capture that is tokenized again is covered from its start to its end. -/
theorem Retokenize.Covers.capture (hagain : again.Covers scope) (hs : s.Below scope)
    (hm : m.Within line.size) (hopen : OpenBelow scope line.size open_) {n : Nat}
    {rule : CaptureRule} {patterns : RuleId} {span : Regex.Span} {part : Output}
    (hn : m.group? n = some span) (hlt : span.start < span.stop)
    (hpart : again (s.push (captureFrame s line grammar m rule patterns open_ span.start))
      (line.extract 0 span.stop) span.start (firstLine && span.start == 0) = .ok part) :
    part.Covers scope span.start span.stop := by
  obtain ⟨hstart, hstop⟩ := hm _ _ hn
  have hname := head?_append_of_eq (hopen.captureScopes hs) (expandName rule.name line m)
  have hsize : (line.extract 0 span.stop).size = span.stop := by
    rw [Array.size_extract]
    omega
  have hp := hagain _ _ _ _ _ (hs.push ⟨hname, head?_append_of_eq hname _⟩)
    (by rw [hsize]; omega) hpart
  rwa [hsize] at hp

theorem GroupStep.covers {n : Nat} {rule : CaptureRule} {open₁ : List OpenCapture} {o₁ : Output}
    (h : GroupStep again s line grammar m firstLine n rule open_ o open₁ o₁)
    (hagain : again.Covers scope) (hs : s.Below scope) (hm : m.Within line.size)
    (hopen : OpenBelow scope line.size open_) (ho : o.Covers scope start line.size) :
    OpenBelow scope line.size open₁ ∧ o₁.Covers scope start line.size := by
  cases h with
  | absent => exact ⟨hopen, ho⟩
  | unnamed hn hlt hclose =>
    obtain ⟨hopen, ho⟩ := closeCaptures_covers hclose hopen ho
    exact ⟨hopen, ho.produce (hm _ _ hn).1 (hopen.captureScopes hs)⟩
  | named hn hlt hclose =>
    obtain ⟨hopen, ho⟩ := closeCaptures_covers hclose hopen ho
    have hbase := hopen.captureScopes hs
    refine ⟨?_, ho.produce (hm _ _ hn).1 hbase⟩
    intro c hc
    rcases List.mem_cons.1 hc with rfl | hc
    · exact ⟨(hm _ _ hn).2, head?_append_of_eq hbase _⟩
    · exact hopen c hc
  | again hn hlt hclose hrule hpart =>
    obtain ⟨hopen, ho⟩ := closeCaptures_covers hclose hopen ho
    obtain ⟨hstart, hstop⟩ := hm _ _ hn
    have hp := hagain.capture hs hm hopen hn hlt hpart
    exact ⟨hopen, (ho.produce hstart (hopen.captureScopes hs)).absorb hp hstop⟩

theorem emitCaptures_covers (hagain : again.Covers scope) (hs : s.Below scope)
    (hm : m.Within line.size) (ho : o.Covers scope start line.size)
    (h : emitCaptures again s line grammar rules m firstLine o = .ok o') :
    o'.Covers scope start line.size := by
  obtain ⟨open₁, o₁, ⟨hopen, ho₁⟩, rfl⟩ := emitCaptures_ok
    (P := fun open_ o => OpenBelow scope line.size open_ ∧ o.Covers scope start line.size)
    (fun _ _ _ _ _ _ _ hp hg => hg.covers hagain hs hm hp.1 hp.2)
    ⟨fun c hc => by simp at hc, ho⟩ h
  exact closeAll_covers hopen ho₁

end Captures

/-! ## Lines -/

/-- All scopes at a cursor begin with this one, and its output tiles what it has reached. -/
structure Cursor.Covers (scope : String) (start size : Nat) (c : Cursor) : Prop where
  state : c.state.Below scope
  output : c.output.Covers scope start size

section Line

variable {sc : Scanner} {again : Retokenize} {line : Array Char} {scope : String} {start : Nat}
  {c c' : Cursor}

theorem Step.covers (h : Step sc again line c c') (hagain : again.Covers scope)
    (hc : c.Covers scope start line.size) : c'.Covers scope start line.size := by
  obtain ⟨hs, ho⟩ := hc
  -- the text before the match, the captures of the match, and the rest of the match
  have hout : ∀ {p : Pattern} {m : Regex.Match} {s : State} {grammar : Nat} {rules : CaptureRules}
      {o : Output} {scopes : List String},
      p.search line c.pos ⟨c.firstLine, c.anchor⟩ = some m → s.Below scope →
      emitCaptures again s line grammar rules m c.firstLine
        (c.output.produce m.start c.state.scopes) = .ok o → scopes.head? = some scope →
      (o.produce m.stop scopes).Covers scope start line.size := by
    intro p m s grammar rules o scopes hm hbelow hemit hscopes
    obtain ⟨hle, hstop⟩ := Pattern.search_whole hm
    have ho' := ho.produce (Nat.le_trans hle hstop) hs.scopes
    exact (emitCaptures_covers hagain hbelow (Pattern.search_within hm) ho' hemit).produce hstop
      hscopes
  cases h with
  | @close f fs r p m o hregions hr he hm hemit =>
    have hf : f.Below scope := hs f (by simp [State.frames, hregions])
    obtain ⟨hrest, hclosing⟩ := hs.close hregions
    exact ⟨hrest, hout hm hclosing hemit hf.name⟩
  | @closeDocument f r p m o hstate hr he hm hemit =>
    have hf : f.Below scope := hs f (by simp [hstate, State.frames])
    have hdocument : State.Below scope ⟨{ f with contentScopes := f.nameScopes }, []⟩ := by
      intro g hg
      obtain rfl := List.mem_singleton.1 hg
      exact ⟨hf.name, hf.name⟩
    exact ⟨hdocument, hout hm hdocument hemit hf.name⟩
  | @single ref r m o hr hm hemit =>
    have hframe := below_openFrame hs line ref (.single r) m
    exact ⟨hs, hout hm (hs.push hframe) hemit hframe.name⟩
  | skip hr hp hm hempty hentered => exact ⟨hs, ho⟩
  | @opens ref rule t p q m o hr ht hp hm hnew hemit hq =>
    have hframe := below_openFrame hs line ref rule m
    exact ⟨hs.push ⟨hframe.name, head?_append_of_eq hframe.name _⟩,
      hout hm (hs.push hframe) hemit hframe.name⟩

/-- A scan that starts in the line covers it up to its end. -/
theorem scan_covers {n : Nat} (hagain : ∀ fuel < n, Retokenize.Covers scope (sc.retokenize fuel))
    (hc : c.Covers scope start line.size) (h : sc.scan n line c = .ok c') :
    c'.Covers scope start line.size ∧ c'.output.reached = line.size := by
  obtain ⟨c₀, hc₀, rfl⟩ := Scanner.scan_ok (P := fun c => c.Covers scope start line.size) n
    (fun fuel hf _ _ hc h => h.covers (hagain fuel hf) hc) hc h
  exact ⟨⟨hc₀.state, hc₀.output.produce (Nat.le_refl _) hc₀.state.scopes⟩,
    hc₀.output.produce_reached _⟩

/-- Captures nest as deep as the fuel reaches, and each part is covered. -/
theorem retokenize_covers (sc : Scanner) (scope : String) :
    ∀ n, Retokenize.Covers scope (sc.retokenize n) := by
  intro n
  induction n using Nat.strongRecOn with
  | ind n ih =>
    intro s part start firstLine o hs hstart h
    obtain ⟨c, hscan, rfl⟩ := map_ok_iff.1 h
    exact (scan_covers ih ⟨hs, covers_startAt hstart⟩ hscan).1.output

theorem WhileStep.covers {f : Frame} (h : WhileStep sc again line f c c')
    (hagain : again.Covers scope) (hf : f.Below scope) (hc : c.Covers scope start line.size) :
    c'.Covers scope start line.size := by
  obtain ⟨hs, ho⟩ := hc
  cases h with
  | unconditional => exact ⟨hs.push hf, ho⟩
  | @holds r p m o hr he hm hemit =>
    obtain ⟨hm, -⟩ := Pattern.search_of_matchAt hm
    obtain ⟨hle, hstop⟩ := Pattern.search_whole hm
    have ho' := ho.produce (Nat.le_trans hle hstop) hf.content
    have hout := (emitCaptures_covers hagain (hs.push hf) (Pattern.search_within hm) ho'
      hemit).produce hstop hf.content
    split_ifs <;> exact ⟨hs.push hf, hout⟩

theorem covers_lineStart {s : State} (hs : s.Below scope) (firstLine : Bool) :
    (Scanner.lineStart s firstLine).Covers scope 0 line.size := by
  refine ⟨?_, covers_startAt (Nat.zero_le _)⟩
  intro f hf
  obtain rfl := List.mem_singleton.1 hf
  exact hs _ (List.mem_append_right _ (List.mem_singleton_self _))

theorem scanLine_covers {fuel : Nat} {s : State} {firstLine : Bool} (hs : s.Below scope)
    (h : sc.scanLine fuel s line firstLine = .ok c') :
    c'.Covers scope 0 line.size ∧ c'.output.reached = line.size := by
  obtain ⟨c, hwhile, hscan⟩ := Scanner.scanLine_ok h
  have hagain := retokenize_covers sc scope
  have hc : c.Covers scope 0 line.size := by
    refine Scanner.checkWhile_ok ?_ (covers_lineStart hs firstLine) hwhile
    intro f hf c c' hc hstep
    exact hstep.covers (hagain fuel) (hs f (List.mem_append_left _ (List.mem_reverse.1 hf))) hc
  exact scan_covers (fun fuel _ => hagain fuel) hc hscan

end Line

/-! ## Documents -/

namespace Tokenizer

section Document

variable {t fresh : Tokenizer} {scope : String} {s next : State} {firstLine : Bool}
  {tokens : List Token}

theorem lineTokens_covers {line : List Char} (hs : s.Below scope)
    (h : t.lineTokens line s firstLine = .ok (tokens, next)) :
    Covers scope line tokens ∧ next.Below scope := by
  obtain ⟨c, hc, h⟩ := bind_ok_iff.1 h
  cases h
  obtain ⟨⟨hstate, hout⟩, hreached⟩ := scanLine_covers hs hc
  refine ⟨covers_realTokens ?_ fun t ht => hout.outermost t (List.mem_reverse.1 ht),
    hstate.forgetPlaces⟩
  rw [← hreached]
  exact hout.tiles

theorem Reachable.state_below {r : Registry} {config : Config}
    (h : r.tokenizerWith scope config = .ok fresh) (hs : fresh.Reachable s) : s.Below scope := by
  obtain ⟨g, -, -, -, hinitial⟩ := Registry.grammar_of_tokenizerWith h
  refine hs.rec_line (Registry.truthful_of_tokenizerWith h) (P := State.Below scope) ?_ ?_
  · rw [hinitial]
    exact below_initial _ scope
  · intro line s next firstLine tokens hs hl
    exact (lineTokens_covers hs hl).2

theorem tokenizeFrom_covers (ht : t.Truthful) {pieces : List (List Char)} :
    ∀ {s : State} {firstLine : Bool} {offset : Nat} {answers : List (Line × List Token)},
      s.Below scope → t.tokenizeFrom s firstLine (withOffsets offset pieces) = .ok answers →
      ∃ ts, Covers scope pieces.flatten ts ∧ documentTokens answers = shiftTokens offset ts := by
  induction pieces generalizing t with
  | nil =>
    intro s firstLine offset answers _ h
    cases h
    exact ⟨[], covers_nil, rfl⟩
  | cons piece pieces ih =>
    intro s firstLine offset answers hs h
    rw [withOffsets, tokenizeFrom_cons, ht.tokenizeLine_fst] at h
    obtain ⟨⟨tokens, next⟩, hl, h⟩ := bind_ok_iff.1 h
    obtain ⟨rest, hrest, rfl⟩ := map_ok_iff.1 h
    obtain ⟨hcovers, hnext⟩ := lineTokens_covers hs hl
    obtain ⟨ts, hts, hflat⟩ := ih (ht.tokenizeLine _ _ _) hnext hrest
    refine ⟨tokens ++ shiftTokens (byteLength piece) ts, hcovers.append hts, ?_⟩
    rw [documentTokens, List.flatMap_cons, ← documentTokens, hflat, shiftTokens_append,
      ← shiftTokens_add]

end Document

end Tokenizer

namespace Registry

/-- Whenever the tokens of a line or of a document can be made, they cover it: they tile all of its
bytes at the bounds of its characters, and the scope of the grammar is the outermost of each. -/
theorem tokens_cover (r : Registry) (scope : String) :
    (∀ config fresh, r.tokenizerWith scope config = .ok fresh →
      ∀ t s line firstLine tokens next, fresh.History t → fresh.Reachable s →
        (t.tokenizeLine line s firstLine).1 = .ok (tokens, next) → Covers scope line tokens) ∧
    ∀ doc tokens, r.tokenize doc scope = .ok tokens → Covers scope doc.toList tokens := by
  constructor
  · intro config fresh h t s line firstLine tokens next ht hs hl
    rw [ht.tokenizeLine_fst (truthful_of_tokenizerWith h)] at hl
    exact (Tokenizer.lineTokens_covers (hs.state_below h) hl).1
  · intro doc tokens h
    obtain ⟨answers, hlines, h⟩ := bind_ok_iff.1 h
    obtain ⟨t, ht, hlines⟩ := bind_ok_iff.1 hlines
    obtain rfl : Tokenizer.documentTokens answers = tokens := Except.ok.inj h
    have ht : r.tokenizerWith scope r.config = .ok t := by
      unfold scanTokenizer tokenizer at ht
      rcases hr : r.tokenizerWith scope r.config with e | u
      · rw [hr] at ht
        cases ht
      · rw [hr] at ht
        cases ht
        rfl
    obtain ⟨ts, hts, hflat⟩ := Tokenizer.tokenizeFrom_covers (truthful_of_tokenizerWith ht)
      (Tokenizer.Reachable.initial.state_below ht) hlines
    rw [flatten_cutLines] at hts
    rw [hflat, shiftTokens_zero]
    exact hts

/-- A document with a carriage return, with groups over lines and with a capture that is tokenized
again is covered, and so is a line of it. -/
theorem covers_groups :
    (∃ tokens, sampleRegistry.tokenize "(a=b1\r\né(" "source.sample" = .ok tokens ∧
      tokens.length = 7 ∧ Covers "source.sample" "(a=b1\r\né(".toList tokens) ∧
    ∃ fresh tokens next, sampleRegistry.tokenizerWith "source.sample" .default = .ok fresh ∧
      (fresh.tokenizeLine "(a=b1\r\n".toList fresh.initialState true).1 = .ok (tokens, next) ∧
      Covers "source.sample" "(a=b1\r\n".toList tokens := by
  have hdocument : (sampleRegistry.tokenize "(a=b1\r\né(" "source.sample").toOption.any
      (·.length == 7) = true := by decide +kernel
  have hline : (sampleRegistry.tokenizerWith "source.sample" .default).toOption.any (fun t =>
      (t.tokenizeLine "(a=b1\r\n".toList t.initialState true).1.toOption.any fun _ => true) =
      true := by decide +kernel
  obtain ⟨hcoverLine, hcoverDocument⟩ := tokens_cover sampleRegistry "source.sample"
  constructor
  · obtain ⟨tokens, htokens, hlength⟩ := exists_ok_of_any hdocument
    exact ⟨tokens, htokens, eq_of_beq hlength, hcoverDocument _ _ htokens⟩
  · obtain ⟨fresh, ht, hline⟩ := exists_ok_of_any hline
    obtain ⟨⟨tokens, next⟩, hl, -⟩ := exists_ok_of_any hline
    exact ⟨fresh, tokens, next, ht, hl, hcoverLine _ _ ht _ _ _ _ _ _ .start .initial hl⟩

end Registry

end Scopelight
