import Scopelight.Proofs.Snapshots

/-!
# What a flag leads to

A flag is looked up by a few keys in order (`flagId_eq`). An index leads from a key to the grammar of
the descriptor that claimed the key last (`Indexed.add`), and entries are never taken out. So a flag
stands for the scope of the descriptor that was registered last among those that claim its first key
that was ever claimed (`Indexed.resolveFlag`). The grammar that is registered for the scope now
claims that key too, unless a later version of it dropped the key (`resolveFlag_claimed`).
-/

namespace Scopelight

/-- The indices in which a flag is looked up. -/
inductive FlagKind where
  | name
  | extension
  | dottedExtension
deriving DecidableEq, Repr

def Descriptor.declared (d : Descriptor) : FlagKind → List String
  | .name => d.names
  | .extension => d.extensions
  | .dottedExtension => d.dottedExtensions

def Grammar.declared (g : Grammar) : FlagKind → List String
  | .name => g.names
  | .extension => g.extensions
  | .dottedExtension => g.dottedExtensions

/-- The key is the normal form of something that is declared. -/
def Descriptor.Claims (d : Descriptor) (kind : FlagKind) (key : String) : Prop :=
  key ∈ (d.declared kind).map normalForm

def Grammar.Claims (g : Grammar) (kind : FlagKind) (key : String) : Prop :=
  key ∈ (g.declared kind).map normalForm

instance (d : Descriptor) (kind : FlagKind) (key : String) : Decidable (d.Claims kind key) :=
  inferInstanceAs (Decidable (_ ∈ _))

instance (g : Grammar) (kind : FlagKind) (key : String) : Decidable (g.Claims kind key) :=
  inferInstanceAs (Decidable (_ ∈ _))

theorem Grammar.declared_of_compile {d : Descriptor} {g : Grammar}
    (hg : Grammar.compile d = .ok g) (kind : FlagKind) : g.declared kind = d.declared kind := by
  obtain ⟨t, -, hmade⟩ := compile_keeps (stable_noted d.scope) (noted_empty d.scope) hg
  cases kind with
  | name => exact hmade.names
  | extension => exact hmade.extensions
  | dottedExtension => exact hmade.dottedExtensions

theorem FlagIndex.lookup_insertAll (index : FlagIndex) (keys : List String) (id : Nat)
    (key : String) :
    (index.insertAll keys id).lookup key =
      if key ∈ keys.map normalForm then some id else List.lookup key index := by
  induction keys generalizing index with
  | nil => simp [insertAll]
  | cons k keys ih =>
    have hstep := ih ((normalForm k, id) :: index)
    change List.lookup key (insertAll ((normalForm k, id) :: index) keys id) = _
    rw [hstep, List.lookup_cons]
    by_cases hk : key = normalForm k
    · simp [hk]
    · simp [hk, beq_eq_false_iff_ne.2 hk]

namespace Snapshot

def index (s : Snapshot) : FlagKind → FlagIndex
  | .name => s.names
  | .extension => s.extensions
  | .dottedExtension => s.dottedExtensions

theorem index_add (s : Snapshot) (g : Grammar) (kind : FlagKind) :
    (s.add g).index kind = (s.index kind).insertAll (g.declared kind) (s.placeOf g.scope) := by
  unfold index add placeOf
  rcases s.byScope.lookup g.scope with _ | place <;> cases kind <;> rfl

end Snapshot

namespace Registry

/-- Where a flag is looked up, and by which key: the whole as a name, then what it ends with from its
last dot on as an extension of either kind. Without a dot, the whole may be one that lacks its dot. -/
def keysOf (flag : String) : List (FlagKind × String) :=
  let normal := normalFlag flag.toList
  (.name, String.ofList normal) ::
    match fromLastDot normal with
    | some ext => [(.extension, String.ofList ext), (.dottedExtension, String.ofList ext)]
    | none => [(.extension, String.ofList ('.' :: normal))]

/-- The descriptor that claims a key last. -/
def claimant (ds : List Descriptor) (kind : FlagKind) (key : String) : Option Descriptor :=
  ds.reverse.find? fun d => d.Claims kind key

/-- The descriptor that claims a flag last, by the first of its keys that is claimed at all. -/
def flagClaimant (ds : List Descriptor) (flag : String) : Option Descriptor :=
  (keysOf flag).findSome? fun (kind, key) => claimant ds kind key

/-- The indices hold what these descriptors leave when they are added in order. -/
def Indexed (r : Registry) (ds : List Descriptor) : Prop :=
  ∀ kind key, (r.index kind).lookup key = (claimant ds kind key).map fun d => r.placeOf d.scope

/-- Every version of the grammar of a scope claims what the versions before it claim. -/
def KeepsFlags (ds : List Descriptor) (scope : String) : Prop :=
  (ds.filter (·.scope = scope)).Pairwise fun d d' =>
    ∀ kind key, d.Claims kind key → d'.Claims kind key

section Flags

variable {r r' : Registry} {d : Descriptor} {ds xs ys : List Descriptor} {g : Grammar}
  {scope flag key : String} {kind : FlagKind}

theorem findSome?_cons_or {α β : Type} (f : α → Option β) (a : α) (as : List α) :
    (a :: as).findSome? f = (f a).or (as.findSome? f) := by
  rw [List.findSome?_cons]
  rcases f a with _ | b <;> rfl

theorem flagId_eq (r : Registry) (flag : String) :
    r.flagId? flag = (keysOf flag).findSome? fun (kind, key) => (r.index kind).lookup key := by
  unfold flagId? keysOf
  rcases h : fromLastDot (normalFlag flag.toList) with _ | ext <;>
    simp [findSome?_cons_or, Snapshot.index, h]

theorem index_add (r : Registry) (g : Grammar) (kind : FlagKind) :
    (r.add g).index kind = (r.index kind).insertAll (g.declared kind) (r.placeOf g.scope) :=
  r.toSnapshot.index_add g kind

theorem claimant_concat (ds : List Descriptor) (d : Descriptor) (kind : FlagKind) (key : String) :
    claimant (ds ++ [d]) kind key =
      if d.Claims kind key then some d else claimant ds kind key := by
  unfold claimant
  rw [List.reverse_append, List.reverse_singleton, List.singleton_append, List.find?_cons]
  by_cases h : d.Claims kind key <;> simp [h]

theorem of_claimant (h : claimant ds kind key = some d) : d ∈ ds ∧ d.Claims kind key := by
  have hmem := List.mem_of_find?_eq_some h
  have hclaims := List.find?_some h
  exact ⟨by simpa using hmem, by simpa using hclaims⟩

theorem of_flagClaimant (h : flagClaimant ds flag = some d) :
    d ∈ ds ∧ ∃ p ∈ keysOf flag, d.Claims p.1 p.2 := by
  obtain ⟨p, hp, hclaim⟩ := List.exists_of_findSome?_eq_some h
  obtain ⟨hd, hclaims⟩ := of_claimant hclaim
  exact ⟨hd, p, hp, hclaims⟩

theorem Holds.idOf_of_mem (h : r.Holds ds) (hd : d ∈ ds) :
    r.idOf? d.scope = some (r.placeOf d.scope) := by
  obtain ⟨id, hid⟩ := Option.isSome_iff_exists.1 (h.isSome_iff.2 (List.mem_map_of_mem hd))
  rw [placeOf_of_idOf hid, hid]

theorem Holds.placeOf_add (h : r.Holds ds) (hd : d ∈ ds) (g : Grammar) :
    (r.add g).placeOf d.scope = r.placeOf d.scope :=
  placeOf_of_idOf (idOf_add_of_some (h.idOf_of_mem hd) g)

/-! ## What descriptors leave in the indices -/

theorem indexed_withConfig (config : Config) : Indexed (withConfig config) [] := by
  intro kind key
  cases kind <;> rfl

theorem Indexed.add (hi : r.Indexed ds) (h : r.Holds ds) (hd : Grammar.compile d = .ok g) :
    (r.add g).Indexed (ds ++ [d]) := by
  intro kind key
  have hscope := Grammar.scope_of_compile hd
  have hplace : (r.add g).placeOf d.scope = r.placeOf g.scope :=
    placeOf_of_idOf (by rw [idOf_add, if_pos hscope.symm])
  rw [index_add, FlagIndex.lookup_insertAll, Grammar.declared_of_compile hd, claimant_concat]
  by_cases hclaims : d.Claims kind key
  · rw [if_pos hclaims, Option.map_some, hplace]
    exact if_pos hclaims
  · rw [if_neg hclaims]
    refine (if_neg hclaims).trans ((hi kind key).trans ?_)
    rcases hc : claimant ds kind key with _ | c
    · rfl
    · rw [Option.map_some, Option.map_some, h.placeOf_add (of_claimant hc).1]

theorem Indexed.adds (hi : r.Indexed xs) (h : r.Holds xs) (ha : r.Adds ys r') :
    r'.Indexed (xs ++ ys) := by
  induction ha generalizing xs with
  | nil => rwa [List.append_nil]
  | cons hd _ ih =>
    rw [List.append_cons]
    exact ih (hi.add h hd) (h.add hd)

theorem indexed_afterCalls (config : Config) (calls : List (List Descriptor)) :
    ((withConfig config).afterCalls calls).Indexed (registered calls) := by
  obtain ⟨s, hs, heq⟩ := afterCalls_eq (withConfig config) calls
  have hi : s.Indexed (registered calls) :=
    (indexed_withConfig config).adds (holds_withConfig config) hs
  rw [heq]
  exact hi

/-! ## What a flag stands for -/

theorem Indexed.flagId (hi : r.Indexed ds) (flag : String) :
    r.flagId? flag = (flagClaimant ds flag).map fun d => r.placeOf d.scope := by
  rw [flagId_eq, flagClaimant, List.map_findSome?]
  congr 1
  funext p
  exact hi p.1 p.2

/-- A flag stands for the scope of the descriptor that claims it last. -/
theorem Indexed.resolveFlag (hi : r.Indexed ds) (h : r.Holds ds) (flag : String) :
    r.resolveFlag flag = (flagClaimant ds flag).map Descriptor.scope := by
  rw [Registry.resolveFlag, hi.flagId]
  rcases hc : flagClaimant ds flag with _ | d
  · rfl
  · obtain ⟨g, hg, hscope, -⟩ := h.exists_grammar (h.idOf_of_mem (of_flagClaimant hc).1)
    simp [hg, hscope]

/-- If no version of a grammar drops what it claimed, the one that is registered claims all that was
ever claimed for its scope. -/
theorem KeepsFlags.claims_of_latest (hk : KeepsFlags ds scope) (hg : LatestOf ds g)
    (hscope : g.scope = scope) (hd : d ∈ ds) (hd' : d.scope = scope)
    (hclaims : d.Claims kind key) : g.Claims kind key := by
  obtain ⟨before, last, after, rfl, hlast, hafter⟩ := hg
  have hsame : last.scope = scope := (Grammar.scope_of_compile hlast).symm.trans hscope
  suffices hlatest : last.Claims kind key by
    rwa [Grammar.Claims, Grammar.declared_of_compile hlast]
  rcases List.mem_append.1 hd with hbefore | hd
  · rw [KeepsFlags, List.filter_append, List.pairwise_append] at hk
    refine hk.2.2 d ?_ last ?_ kind key hclaims <;> simp [hbefore, hd', hsame]
  rcases List.mem_cons.1 hd with rfl | hd
  · exact hclaims
  · exact absurd (hd'.trans hscope.symm) (hafter d hd)

/-- After any calls a flag stands for the scope of the descriptor that claims it last, of all that
were registered. If the versions of that grammar since then claim what the ones before them claim,
the grammar that is registered claims a key by which the flag is looked up. -/
theorem resolveFlag_claimed (config : Config) (calls : List (List Descriptor)) (flag : String) :
    let r := (withConfig config).afterCalls calls
    r.resolveFlag flag = (flagClaimant (registered calls) flag).map Descriptor.scope ∧
    ∀ scope, KeepsFlags (registered calls) scope → r.resolveFlag flag = some scope →
      ∃ g, r.find? scope = some g ∧ ∃ p ∈ keysOf flag, g.Claims p.1 p.2 := by
  intro r
  have h : r.Holds (registered calls) := holds_afterCalls config calls
  have hresolve := (indexed_afterCalls config calls).resolveFlag h flag
  refine ⟨hresolve, fun scope hk hflag => ?_⟩
  rw [hresolve] at hflag
  obtain ⟨d, hd, hscope⟩ := Option.map_eq_some_iff.1 hflag
  obtain ⟨hmem, p, hp, hclaims⟩ := of_flagClaimant hd
  have hid := h.idOf_of_mem hmem
  obtain ⟨g, hg, hgscope, hlatest⟩ := h.exists_grammar hid
  rw [hscope] at hid hgscope
  refine ⟨g, ?_, p, hp, hk.claims_of_latest hlatest hgscope hmem hscope hclaims⟩
  rw [find?, hid]
  rwa [hscope] at hg

def namedGrammar : Descriptor :=
  { Descriptor.empty with
    scopeName := "source.named"
    names := ["old"] }

def renamedGrammar : Descriptor := { namedGrammar with names := ["new"] }

def twiceNamedGrammar : Descriptor := { namedGrammar with names := ["new", "Old"] }

/-- A name that the later version has too leads to it. -/
theorem kept_name_resolves :
    let r := empty.afterCalls [[namedGrammar], [twiceNamedGrammar]]
    KeepsFlags (registered [[namedGrammar], [twiceNamedGrammar]]) "source.named" ∧
      r.resolveFlag " OLD/" = some "source.named" ∧
      ∃ g, r.find? "source.named" = some g ∧ ∃ p ∈ keysOf " OLD/", g.Claims p.1 p.2 := by
  have hnamed : Compiles [namedGrammar] = true ∧ namedGrammar.scope = "source.named" := by
    decide +kernel
  have htwice : Compiles [twiceNamedGrammar] = true ∧ twiceNamedGrammar.scope = "source.named" := by
    decide +kernel
  have hnames : ∀ key ∈ namedGrammar.names.map normalForm,
      key ∈ twiceNamedGrammar.names.map normalForm := by decide +kernel
  have hkeeps : KeepsFlags (registered [[namedGrammar], [twiceNamedGrammar]]) "source.named" := by
    simp only [KeepsFlags, registered, List.filter_cons, hnamed, htwice, if_true, List.filter_nil,
      List.flatten_cons, List.flatten_nil, List.append_nil, List.singleton_append, decide_true,
      List.pairwise_pair]
    intro kind key hkey
    cases kind with
    | name => exact hnames key hkey
    | extension => cases hkey
    | dottedExtension => cases hkey
  have hflag : (empty.afterCalls [[namedGrammar], [twiceNamedGrammar]]).resolveFlag " OLD/" =
      some "source.named" := by decide +kernel
  obtain ⟨-, hclaimed⟩ := resolveFlag_claimed .default [[namedGrammar], [twiceNamedGrammar]] " OLD/"
  exact ⟨hkeeps, hflag, hclaimed _ hkeeps hflag⟩

/-- A name that the later version dropped still leads to it. -/
theorem dropped_name_resolves :
    ∃ g, (empty.afterCalls [[namedGrammar], [renamedGrammar]]).resolveFlag "old" =
        some "source.named" ∧
      (empty.afterCalls [[namedGrammar], [renamedGrammar]]).find? "source.named" = some g ∧
      ∀ p ∈ keysOf "old", ∀ kind, ¬ g.Claims kind p.2 := by
  have hrun : ((empty.afterCalls [[namedGrammar], [renamedGrammar]]).find? "source.named").any
      (fun g => g.names == ["new"] && g.extensions == [] && g.dottedExtensions == []) = true := by
    decide +kernel
  obtain ⟨g, hg, hnames⟩ := (Option.any_eq_true _ _).1 hrun
  simp only [Bool.and_eq_true, beq_iff_eq] at hnames
  obtain ⟨⟨hnames, hextensions⟩, hdotted⟩ := hnames
  refine ⟨g, by decide +kernel, hg, ?_⟩
  have hnew : ∀ p ∈ keysOf "old", p.2 ∉ ["new"].map normalForm := by decide +kernel
  intro p hp kind
  cases kind with
  | name => simpa [Grammar.Claims, Grammar.declared, hnames] using hnew p hp
  | extension => simp [Grammar.Claims, Grammar.declared, hextensions]
  | dottedExtension => simp [Grammar.Claims, Grammar.declared, hdotted]

end Flags

end Registry

end Scopelight
