import Scopelight.Proofs.Ascii
import Scopelight.Proofs.Flags

/-!
# Extensions of paths

An extension in lower case stands at the end of a path's normal form, whatever is before it
(`exists_normalFlag_append`). So a path is looked up by the last part of the extension, from its last
dot on (`fromLastDot_normalFlag`), which is all of it if it has one dot
(`resolveFlag_append_extension`).
-/

namespace Scopelight

open Text

/-- The extension as it may be declared: a dot, ASCII characters, and at the end nothing that is cut
from flags. -/
structure PlainExtension (cs : List Char) : Prop where
  ascii : ∀ c ∈ cs, c.toNat < 128
  dot : cs.head? = some '.'
  last : ∀ c, cs.getLast? = some c → c ≠ '/' ∧ c ≠ ' ' ∧ c ≠ '\t'

theorem Registry.fromLastDot_append {ds : List Char} (cs : List Char) (h : '.' ∉ ds) :
    fromLastDot (cs ++ '.' :: ds) = some ('.' :: ds) := by
  have htake : (ds.reverse ++ '.' :: cs.reverse).takeWhile (· != '.') = ds.reverse := by
    rw [List.takeWhile_append_of_pos]
    · simp
    · intro c hc
      rw [List.mem_reverse] at hc
      simpa using ne_of_mem_of_not_mem hc h
  unfold fromLastDot
  simp [htake]
  omega

namespace PlainExtension

variable {cs last : List Char}

theorem exists_lower_eq (h : PlainExtension cs) : ∃ ds, cs.map Char.toLower = '.' :: ds := by
  obtain ⟨ds, rfl⟩ := List.head?_eq_some_iff.1 h.dot
  exact ⟨ds.map Char.toLower, rfl⟩

theorem exists_lower_eq_concat (h : PlainExtension cs) :
    ∃ ds c, cs.map Char.toLower = ds ++ [c] ∧ c ≠ '/' ∧ c ≠ ' ' ∧ c ≠ '\t' := by
  have hne : cs ≠ [] := by
    rintro rfl
    simpa using h.dot
  obtain ⟨ds, d, rfl⟩ := List.eq_nil_or_concat cs |>.resolve_left hne
  have hascii := h.ascii d (by simp)
  obtain ⟨hslash, hspace, htab⟩ := h.last d (by simp)
  refine ⟨ds.map Char.toLower, d.toLower, by simp, ?_⟩
  simp [toLower_eq_iff hascii, hslash, hspace, htab]

/-- Nothing is cut from a text in lower case that ends with the extension but blanks before it. -/
theorem normalFlag_of_lower (h : PlainExtension cs) {xs : List Char} (es : List Char)
    (hlower : lowerChars xs = es ++ cs.map Char.toLower) :
    normalFlag xs = (es.dropWhile fun c => c == ' ' || c == '\t') ++ cs.map Char.toLower := by
  have hbefore : (es ++ cs.map Char.toLower).dropWhile (fun c => c == ' ' || c == '\t') =
      (es.dropWhile fun c => c == ' ' || c == '\t') ++ cs.map Char.toLower := by
    obtain ⟨ds, hds⟩ := h.exists_lower_eq
    rw [hds, List.dropWhile_append]
    split
    · next hnone => simp [List.isEmpty_iff.1 hnone]
    · rfl
  obtain ⟨ds, c, hds, hslash, hspace, htab⟩ := h.exists_lower_eq_concat
  unfold normalFlag
  rw [hlower, hbefore, hds]
  simp [hslash, hspace, htab]

theorem normalFlag_eq (h : PlainExtension cs) : normalFlag cs = cs.map Char.toLower :=
  h.normalFlag_of_lower [] (lowerAfter_ascii [] h.ascii)

theorem exists_normalFlag_append (h : PlainExtension cs) (stem : List Char) :
    ∃ front, normalFlag (stem ++ cs) = front ++ normalFlag cs := by
  obtain ⟨es, hes⟩ := exists_lowerAfter_append [] stem cs
  rw [lowerAfter_ascii _ h.ascii] at hes
  rw [h.normalFlag_eq]
  exact ⟨_, h.normalFlag_of_lower es hes⟩

theorem of_append {front last : List Char} (h : PlainExtension (front ++ '.' :: last)) :
    PlainExtension ('.' :: last) where
  ascii c hc := h.ascii c (List.mem_append_right front hc)
  dot := rfl
  last c hc := h.last c (by rw [List.getLast?_append, hc, Option.some_or])

theorem fromLastDot_normalFlag (h : PlainExtension ('.' :: last)) (hlast : '.' ∉ last)
    (stem : List Char) :
    Registry.fromLastDot (normalFlag (stem ++ '.' :: last)) = some (normalFlag ('.' :: last)) := by
  obtain ⟨front, hfront⟩ := h.exists_normalFlag_append stem
  have hdot : '.' ∉ last.map Char.toLower := by
    intro hmem
    obtain ⟨c, hc, hcdot⟩ := List.mem_map.1 hmem
    rw [toLower_eq_iff (h.ascii c (by simp [hc])) (by simp)] at hcdot
    exact hlast (hcdot ▸ hc)
  rw [hfront, h.normalFlag_eq]
  exact Registry.fromLastDot_append front hdot

end PlainExtension

namespace Registry

variable {r : Registry} {ds : List Descriptor} {e : String} {front last : List Char}

theorem isSome_flagClaimant {flag : String} :
    (flagClaimant ds flag).isSome ↔ ∃ p ∈ keysOf flag, ∃ d ∈ ds, d.Claims p.1 p.2 := by
  simp [flagClaimant, claimant, List.findSome?_isSome_iff, List.find?_isSome]

theorem keysOf_append (h : PlainExtension e.toList) (heq : e.toList = front ++ '.' :: last)
    (hlast : '.' ∉ last) (stem : String) :
    keysOf (stem ++ e) = [(.name, normalForm (stem ++ e)),
      (.extension, normalForm (String.ofList ('.' :: last))),
      (.dottedExtension, normalForm (String.ofList ('.' :: last)))] := by
  rw [heq] at h
  have hflag : (stem ++ e).toList = (stem.toList ++ front) ++ '.' :: last := by
    rw [String.toList_append, heq, List.append_assoc]
  simp only [keysOf, hflag, h.of_append.fromLastDot_normalFlag hlast, normalForm,
    String.toList_ofList]

theorem Indexed.isSome_resolveFlag_append (hi : r.Indexed ds) (hr : r.Holds ds)
    (h : PlainExtension e.toList) (heq : e.toList = front ++ '.' :: last) (hlast : '.' ∉ last)
    (stem : String) :
    (r.resolveFlag (stem ++ e)).isSome ↔ ∃ d ∈ ds, d.Claims .name (normalForm (stem ++ e)) ∨
      ∃ kind ≠ .name, d.Claims kind (normalForm (String.ofList ('.' :: last))) := by
  rw [hi.resolveFlag hr, Option.isSome_map, isSome_flagClaimant, keysOf_append h heq hlast]
  simp only [List.exists_mem_cons_iff, List.not_mem_nil, false_and, exists_false, or_false]
  constructor
  · rintro (⟨d, hd, hclaims⟩ | ⟨d, hd, hclaims⟩ | ⟨d, hd, hclaims⟩)
    · exact ⟨d, hd, .inl hclaims⟩
    · exact ⟨d, hd, .inr ⟨.extension, nofun, hclaims⟩⟩
    · exact ⟨d, hd, .inr ⟨.dottedExtension, nofun, hclaims⟩⟩
  · rintro ⟨d, hd, hclaims | ⟨kind, hkind, hclaims⟩⟩
    · exact .inl ⟨d, hd, hclaims⟩
    · cases kind with
      | name => contradiction
      | extension => exact .inr (.inl ⟨d, hd, hclaims⟩)
      | dottedExtension => exact .inr (.inr ⟨d, hd, hclaims⟩)

/-- Whatever stands before a declared extension that has one dot, the path is found. With further
dots it is found only if somebody claims the whole path as a name or the part of the extension from
its last dot on as an extension. -/
theorem resolveFlag_append_extension (config : Config) (calls : List (List Descriptor)) {id : Nat}
    {g : Grammar} (hg : ((withConfig config).afterCalls calls).grammar? id = some g)
    (he : e ∈ g.extensions ∨ e ∈ g.dottedExtensions) (h : PlainExtension e.toList) (stem : String) :
    let r := (withConfig config).afterCalls calls
    (e.toList.count '.' = 1 → (r.resolveFlag (stem ++ e)).isSome) ∧
    ∀ front last, e.toList = front ++ '.' :: last → '.' ∉ last →
      ((r.resolveFlag (stem ++ e)).isSome ↔ ∃ d ∈ registered calls,
        d.Claims .name (normalForm (stem ++ e)) ∨
        ∃ kind ≠ .name, d.Claims kind (normalForm (String.ofList ('.' :: last)))) := by
  intro r
  have hholds : r.Holds (registered calls) := holds_afterCalls config calls
  have hfound (front last : List Char) (heq : e.toList = front ++ '.' :: last)
      (hlast : '.' ∉ last) :=
    (indexed_afterCalls config calls).isSome_resolveFlag_append hholds h heq hlast stem
  refine ⟨fun hone => ?_, hfound⟩
  obtain ⟨last, heq⟩ := List.head?_eq_some_iff.1 h.dot
  have hlast : '.' ∉ last := by
    rw [heq, List.count_cons_self] at hone
    exact List.count_eq_zero.1 (by omega)
  obtain ⟨before, d, after, hds, hd, -⟩ := hholds.latest hg
  obtain ⟨kind, hkind, he⟩ : ∃ kind ≠ .name, e ∈ g.declared kind := by
    rcases he with he | he
    · exact ⟨.extension, nofun, he⟩
    · exact ⟨.dottedExtension, nofun, he⟩
  rw [Grammar.declared_of_compile hd] at he
  refine (hfound [] last heq hlast).2 ⟨d, by simp [hds], .inr ⟨kind, hkind, ?_⟩⟩
  rw [← heq, String.ofList_toList]
  exact List.mem_map_of_mem he

def archiveGrammar : Descriptor :=
  { Descriptor.empty with
    scopeName := "source.archive"
    extensions := [".Zip"]
    dottedExtensions := [".tar.gz"] }

/-- A path is found by an extension in either case. -/
theorem path_with_one_dot_resolves :
    (∃ g, (empty.afterCalls [[archiveGrammar]]).grammar? 0 = some g ∧ ".Zip" ∈ g.extensions) ∧
      PlainExtension ".Zip".toList ∧ ".Zip".toList.count '.' = 1 ∧
      ((empty.afterCalls [[archiveGrammar]]).resolveFlag ("Σ/a.b" ++ ".Zip")).isSome := by
  have hrun : ((empty.afterCalls [[archiveGrammar]]).grammar? 0).any
      (".Zip" ∈ ·.extensions) = true := by decide +kernel
  obtain ⟨g, hg, hext⟩ := (Option.any_eq_true _ _).1 hrun
  have hext : ".Zip" ∈ g.extensions := of_decide_eq_true hext
  have hplain : PlainExtension ".Zip".toList := ⟨by simp, by simp, by simp⟩
  exact ⟨⟨g, hg, hext⟩, hplain, by decide,
    (resolveFlag_append_extension .default [[archiveGrammar]] hg (.inl hext) hplain "Σ/a.b").1
      (by decide)⟩

/-- A path is not found by an extension with two dots. -/
theorem path_with_two_dots_unresolved :
    ((empty.afterCalls [[archiveGrammar]]).grammar? 0).any (".tar.gz" ∈ ·.dottedExtensions) = true ∧
      PlainExtension ".tar.gz".toList ∧
      (empty.afterCalls [[archiveGrammar]]).resolveFlag ("x" ++ ".tar.gz") = none :=
  ⟨by decide +kernel, ⟨by simp, by simp, by simp⟩, by decide +kernel⟩

end Registry

end Scopelight
