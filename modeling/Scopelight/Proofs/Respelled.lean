import Mathlib.Data.List.DropRight
import Scopelight.Proofs.Flags
import Scopelight.Proofs.LowerCase

/-!
# Flags written otherwise

A flag may be written with ASCII letters in either case, blanks before it, and slashes and blanks
behind it (`Respelled`). Its normal form is the same (`normalForm_eq_of_respelled`) and is its own
normal form (`normalFlag_normalFlag`). Descriptors whose names and extensions are written otherwise
are compiled to grammars that differ in nothing else (`Grammar.compile_renamed`), so flags stand for
what they stood for (`resolveFlag_respelled`).
-/

namespace Scopelight

open Text

/-- A text written otherwise: the same but for the case of ASCII letters, blanks before it, and
slashes and blanks behind it. -/
def Respelled (s s' : String) : Prop :=
  ∃ before cs behind, s'.toList = before ++ (cs ++ behind) ∧
    cs.map Char.toLower = s.toList.map Char.toLower ∧
    (∀ c ∈ before, c ∈ [' ', '\t']) ∧ ∀ c ∈ behind, c ∈ [' ', '\t', '/']

/-- The same descriptor with its names and extensions written otherwise. -/
def Descriptor.Respelled (d d' : Descriptor) : Prop :=
  ∃ names extensions dotted, d' = { d with names, extensions, dottedExtensions := dotted } ∧
    d.names.Forall₂ Scopelight.Respelled names ∧
    d.extensions.Forall₂ Scopelight.Respelled extensions ∧
    d.dottedExtensions.Forall₂ Scopelight.Respelled dotted

section NormalForm

variable {cs before behind : List Char} {s s' : String}

/-- What is cut from the beginning of a flag. -/
def cutBefore (c : Char) : Bool := c == ' ' || c == '\t'

/-- What is cut from the end of a flag. -/
def cutBehind (c : Char) : Bool := c == '/' || c == ' ' || c == '\t'

theorem normalFlag_eq_trim (cs : List Char) :
    normalFlag cs = ((lowerChars cs).dropWhile cutBefore).rdropWhile cutBehind := rfl

theorem dropWhile_rdropWhile (cs : List Char) :
    ((cs.dropWhile cutBefore).rdropWhile cutBehind).dropWhile cutBefore =
      (cs.dropWhile cutBefore).rdropWhile cutBehind := by
  obtain ⟨cut, hcut⟩ := List.rdropWhile_prefix cutBehind (cs.dropWhile cutBefore)
  rcases h : (cs.dropWhile cutBefore).rdropWhile cutBehind with _ | ⟨c, kept⟩
  · rfl
  · have hfirst := List.head?_dropWhile_not cutBefore cs
    rw [← hcut, h] at hfirst
    exact List.dropWhile_cons_of_neg (Bool.not_eq_true _ ▸ hfirst)

theorem normalFlag_normalFlag (cs : List Char) : normalFlag (normalFlag cs) = normalFlag cs := by
  have hlower : lowerChars (normalFlag cs) = normalFlag cs := by
    refine lowerAfter_of_lowered fun c hc => ?_
    have hmem := (List.dropWhile_suffix _).subset ((List.rdropWhile_prefix _ _).subset hc)
    exact lowered_of_mem_lowerAfter hmem
  rw [normalFlag_eq_trim, hlower, normalFlag_eq_trim, dropWhile_rdropWhile,
    List.rdropWhile_idempotent]

theorem rdropWhile_append_of_forall (h : ∀ c ∈ behind, cutBehind c = true) (cs : List Char) :
    (cs ++ behind).rdropWhile cutBehind = cs.rdropWhile cutBehind := by
  unfold List.rdropWhile
  rw [List.reverse_append, List.dropWhile_append_of_pos fun c hc => h c (List.mem_reverse.1 hc)]

theorem trim_between (hbefore : ∀ c ∈ before, cutBefore c = true)
    (hbehind : ∀ c ∈ behind, cutBehind c = true) (cs : List Char) :
    ((before ++ (cs ++ behind)).dropWhile cutBefore).rdropWhile cutBehind =
      (cs.dropWhile cutBefore).rdropWhile cutBehind := by
  rw [List.dropWhile_append_of_pos hbefore, List.dropWhile_append]
  split
  · next hnone =>
    -- Of nothing but blanks, and what is behind them, nothing is left.
    rw [List.isEmpty_iff.1 hnone, List.rdropWhile_nil, List.rdropWhile_eq_nil_iff]
    exact fun c hc => hbehind c ((List.dropWhile_suffix _).subset hc)
  · exact rdropWhile_append_of_forall hbehind _

theorem normalForm_eq_of_respelled (h : Respelled s s') : normalForm s' = normalForm s := by
  obtain ⟨before, cs, behind, hs', hcs, hbefore, hbehind⟩ := h
  have hlower : lowerChars s'.toList = before ++ (lowerChars s.toList ++ behind) := by
    rw [hs', lowerChars_between, lowerChars_eq_of_map_toLower hcs]
    · exact fun c hc => neutral_of_mem (by have := hbefore c hc; simp at this ⊢; tauto)
    · exact fun c hc => neutral_of_mem (hbehind c hc)
  unfold normalForm
  rw [normalFlag_eq_trim, hlower, trim_between, ← normalFlag_eq_trim]
  · intro c hc
    simpa [cutBefore] using hbefore c hc
  · intro c hc
    have := hbehind c hc
    simp [cutBehind] at this ⊢
    tauto

end NormalForm

/-! ## Registries -/

section Registry

variable {d d' : Descriptor} {ds ds' : List Descriptor} {calls calls' : List (List Descriptor)}

theorem Build.run'_map {α β : Type} (f : α → β) (x : Build α) (t : Tables) :
    (f <$> x).run' t = (x.run' t).map f := by
  change Prod.fst <$> (x t >>= fun p => pure (f p.1, p.2)) = (Prod.fst <$> x t).map f
  rcases x t with e | p <;> rfl

/-- What flags look up plays no part when a grammar is compiled. -/
theorem Grammar.compile_renamed (d : Descriptor) (names extensions dotted : List String) :
    compile { d with names, extensions, dottedExtensions := dotted } =
      (compile d).map fun g => { g with names, extensions, dottedExtensions := dotted } := by
  unfold compile
  dsimp only
  split_ifs
  · rfl
  · have hgrammar (scope : String) :
        Build.grammar scope { d with names, extensions, dottedExtensions := dotted } =
          (fun g => { g with names, extensions, dottedExtensions := dotted }) <$>
            Build.grammar scope d := by
      unfold Build.grammar
      simp only [map_bind, map_pure]
    rw [hgrammar, Build.run'_map]

theorem isOk_map {ε α β : Type} (f : α → β) (x : Except ε α) : (x.map f).isOk = x.isOk := by
  cases x <;> rfl

theorem Descriptor.Respelled.compiles (h : d.Respelled d') :
    (Grammar.compile d').isOk = (Grammar.compile d).isOk := by
  obtain ⟨names, extensions, dotted, rfl, -⟩ := h
  rw [Grammar.compile_renamed, isOk_map]

theorem Descriptor.Respelled.scope (h : d.Respelled d') : d'.scope = d.scope := by
  obtain ⟨names, extensions, dotted, rfl, -⟩ := h
  rfl

theorem map_normalForm_eq {ss ss' : List String} (h : ss.Forall₂ Respelled ss') :
    ss'.map normalForm = ss.map normalForm := by
  induction h with
  | nil => rfl
  | cons hs _ ih => rw [List.map_cons, List.map_cons, ih, normalForm_eq_of_respelled hs]

theorem Descriptor.Respelled.claims_iff (h : d.Respelled d') (kind : FlagKind) (key : String) :
    d'.Claims kind key ↔ d.Claims kind key := by
  obtain ⟨names, extensions, dotted, rfl, hnames, hextensions, hdotted⟩ := h
  unfold Descriptor.Claims
  cases kind with
  | name => exact map_normalForm_eq hnames ▸ Iff.rfl
  | extension => exact map_normalForm_eq hextensions ▸ Iff.rfl
  | dottedExtension => exact map_normalForm_eq hdotted ▸ Iff.rfl

namespace Registry

theorem compiles_eq (h : ds.Forall₂ Descriptor.Respelled ds') : Compiles ds' = Compiles ds := by
  induction h with
  | nil => rfl
  | cons hd _ ih => rw [compiles_cons, compiles_cons, ih, hd.compiles]

theorem registered_rel (h : calls.Forall₂ (List.Forall₂ Descriptor.Respelled) calls') :
    (registered calls).Forall₂ Descriptor.Respelled (registered calls') :=
  List.rel_flatten (List.rel_filter (fun _ _ hds => by simp [compiles_eq hds]) h)

theorem claimant_scope_eq (h : ds.Forall₂ Descriptor.Respelled ds') (kind : FlagKind)
    (key : String) : (claimant ds' kind key).map Descriptor.scope =
      (claimant ds kind key).map Descriptor.scope := by
  unfold claimant
  have hlast := List.rel_reverse h
  generalize ds.reverse = es, ds'.reverse = es' at hlast
  induction hlast with
  | nil => rfl
  | cons hd _ ih =>
    rw [List.find?_cons, List.find?_cons]
    simp only [hd.claims_iff kind key]
    split
    · exact congrArg some hd.scope
    · exact ih

theorem flagClaimant_scope_eq (h : ds.Forall₂ Descriptor.Respelled ds') (flag : String) :
    (flagClaimant ds' flag).map Descriptor.scope =
      (flagClaimant ds flag).map Descriptor.scope := by
  unfold flagClaimant
  rw [List.map_findSome?, List.map_findSome?]
  congr 1
  funext p
  exact claimant_scope_eq h p.1 p.2

theorem keysOf_eq {flag flag' : String} (h : normalForm flag' = normalForm flag) :
    keysOf flag' = keysOf flag := by
  have hnormal : normalFlag flag'.toList = normalFlag flag.toList := by
    simpa [normalForm] using congrArg String.toList h
  simp only [keysOf, hnormal]

/-- A flag stands for the same scope if it, or what was registered, is written otherwise. -/
theorem resolveFlag_respelled (config : Config) (calls : List (List Descriptor)) (flag : String) :
    let r := (withConfig config).afterCalls calls
    (∀ flag', Respelled flag flag' → r.resolveFlag flag' = r.resolveFlag flag) ∧
    normalForm (normalForm flag) = normalForm flag ∧
    ∀ calls', calls.Forall₂ (List.Forall₂ Descriptor.Respelled) calls' →
      ((withConfig config).afterCalls calls').resolveFlag flag = r.resolveFlag flag := by
  intro r
  refine ⟨fun flag' hflag => ?_, ?_, fun calls' hcalls => ?_⟩
  · rw [resolveFlag, resolveFlag, flagId_eq, flagId_eq,
      keysOf_eq (normalForm_eq_of_respelled hflag)]
  · simp [normalForm, normalFlag_normalFlag]
  · rw [(indexed_afterCalls config calls').resolveFlag (holds_afterCalls config calls'),
      (indexed_afterCalls config calls).resolveFlag (holds_afterCalls config calls)]
    exact flagClaimant_scope_eq (registered_rel hcalls) flag

def streetGrammar : Descriptor :=
  { Descriptor.empty with
    scopeName := "source.street"
    extensions := [".ΟΔΟΣ"] }

/-- A capital sigma that ends a word still ends it before a slash. -/
theorem street_found_respelled :
    Respelled "a.ΟΔΟΣ" "\t A.ΟΔΟΣ/ " ∧
      (empty.afterCalls [[streetGrammar]]).resolveFlag "\t A.ΟΔΟΣ/ " = some "source.street" ∧
      normalForm (normalForm "a.ΟΔΟΣ") = normalForm "a.ΟΔΟΣ" ∧
      (empty.afterCalls [[{ streetGrammar with extensions := [" .ΟΔΟΣ//"] }]]).resolveFlag
        "a.ΟΔΟΣ" = some "source.street" := by
  have hflag : Respelled "a.ΟΔΟΣ" "\t A.ΟΔΟΣ/ " :=
    ⟨['\t', ' '], "A.ΟΔΟΣ".toList, ['/', ' '], by decide, by decide, by simp, by simp⟩
  have hextension : Respelled ".ΟΔΟΣ" " .ΟΔΟΣ//" :=
    ⟨[' '], ".ΟΔΟΣ".toList, ['/', '/'], by decide, rfl, by simp, by simp⟩
  have hdescriptor : streetGrammar.Respelled { streetGrammar with extensions := [" .ΟΔΟΣ//"] } :=
    ⟨[], [" .ΟΔΟΣ//"], [], rfl, .nil, .cons hextension .nil, .nil⟩
  have hfound : (empty.afterCalls [[streetGrammar]]).resolveFlag "a.ΟΔΟΣ" =
      some "source.street" := by decide +kernel
  obtain ⟨hsame, hnormal, hdeclared⟩ :=
    resolveFlag_respelled .default [[streetGrammar]] "a.ΟΔΟΣ"
  exact ⟨hflag, (hsame _ hflag).trans hfound, hnormal,
    (hdeclared _ (.cons (.cons hdescriptor .nil) .nil)).trans hfound⟩

end Registry

end Registry

end Scopelight
