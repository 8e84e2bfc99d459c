import Scopelight.Grammar.Descriptor
import Scopelight.Proofs.Written

/-!
# Writing a grammar and reading it again

Fields are written in the order in which they are read, and a field is left out only where it has the
value that a missing one is given. What a rule nests was read with the room that was left, so it is
read back with this room (`RuleSpec.rereads`). Hence a grammar that was read from any text is read
again from its own text (`ofText_toText`).
-/

namespace Scopelight

open Json

namespace RuleSpec

/-! ## Rules -/

theorem entriesToValue_eq (ms : List (String × RuleSpec)) :
    entriesToValue ms = entries toValue ms := by
  induction ms with
  | nil => rfl
  | cons m ms ih => rw [entriesToValue, ih]; rfl

theorem rulesToValue_eq (rs : List RuleSpec) : rulesToValue rs = rs.map toValue := by
  induction rs with
  | nil => rfl
  | cons r rs ih => rw [rulesToValue, ih, List.map_cons]

theorem optionalMap_eq (key : String) (ms : Option (List (String × RuleSpec))) :
    optionalMap key ms = ms.toList.map fun ms => (key, .object (entries toValue ms)) := by
  cases ms with
  | none => rfl
  | some ms => rw [optionalMap, entriesToValue_eq]; rfl

theorem optionalRules_eq (key : String) (rs : Option (List RuleSpec)) :
    optionalRules key rs = rs.toList.map fun rs => (key, .array (rs.map toValue)) := by
  cases rs with
  | none => rfl
  | some rs => rw [optionalRules, rulesToValue_eq]; rfl

/-- The lists and maps of the rule are read back. -/
structure Restored (room : Nat) (nested : Nat → Read RuleSpec) (r : RuleSpec) : Prop where
  captures : ∀ ms ∈ r.captures, ReadsBack (map room nested) ms (.object (entries toValue ms))
  beginCaptures :
    ∀ ms ∈ r.beginCaptures, ReadsBack (map room nested) ms (.object (entries toValue ms))
  endCaptures :
    ∀ ms ∈ r.endCaptures, ReadsBack (map room nested) ms (.object (entries toValue ms))
  whileCaptures :
    ∀ ms ∈ r.whileCaptures, ReadsBack (map room nested) ms (.object (entries toValue ms))
  patterns : ∀ rs ∈ r.patterns, ReadsBack (list room nested) rs (.array (rs.map toValue))
  repository :
    ∀ ms ∈ r.repository, ReadsBack (map room nested) ms (.object (entries toValue ms))

section Restored

variable {room : Nat} {nested : Nat → Read RuleSpec}

theorem restored_empty (room : Nat) (nested : Nat → Read RuleSpec) :
    Restored room nested empty :=
  ⟨nofun, nofun, nofun, nofun, nofun, nofun⟩

theorem keeps_restored (h : ∀ n, room = n + 1 → Rereads (nested n) toValue) :
    ∀ f ∈ fields room nested, f.Keeps (Restored room nested) := by
  have hmap : Rereads (map room nested) fun ms => .object (entries toValue ms) := .map h
  have hlist : Rereads (list room nested) fun rs => .array (rs.map toValue) := .list h
  simp only [fields, List.forall_mem_cons]
  refine ⟨?_, ?_, ?_, ?_, ?captures, ?_, ?beginCaptures, ?_, ?endCaptures, ?_, ?whileCaptures,
    ?patterns, ?repository, ?_, List.forall_mem_nil _⟩
  all_goals refine FieldReader.keeps_of fun cs v rest hv r hr => ?_
  case captures => exact { hr with captures := hmap.of_optional hv }
  case beginCaptures => exact { hr with beginCaptures := hmap.of_optional hv }
  case endCaptures => exact { hr with endCaptures := hmap.of_optional hv }
  case whileCaptures => exact { hr with whileCaptures := hmap.of_optional hv }
  case patterns => exact { hr with patterns := hlist.of_optional hv }
  case repository => exact { hr with repository := hmap.of_optional hv }
  -- The other fields hold no rules.
  all_goals exact { hr with }

theorem boolOrInt_true (room : Nat) : ReadsBack (boolOrInt room) true (.bool true) := by
  intro rest
  cases room <;> rfl

theorem nodup_keys (room : Nat) (nested : Nat → Read RuleSpec) :
    ((fields room nested).map (·.key)).Nodup := by
  simp only [fields, List.map_cons, List.map_nil, FieldReader.of]
  decide

/-- A rule whose lists and maps are read back is written as members that lead to it. -/
theorem Restored.writes {r : RuleSpec} (h : r.Restored room nested) :
    ∃ ms, r.toValue = .object ms ∧ Writes (fields room nested) ms empty r := by
  obtain ⟨reference, name, contentName, matchPattern, captures, beginPattern, beginCaptures,
    endPattern, endCaptures, whilePattern, whileCaptures, patterns, repository, applyEndLast⟩ := r
  refine ⟨_, by rw [toValue], ?_⟩
  simp only [optionalString, optionalMap_eq, optionalRules_eq, List.append_assoc]
  -- The fields are written in the order in which they are listed.
  refine .optional _ rfl (fun s _ => readsBack_string s) ?_
  refine .optional _ rfl (fun s _ => readsBack_string s) ?_
  refine .optional _ rfl (fun s _ => readsBack_string s) ?_
  refine .optional _ rfl (fun s _ => readsBack_string s) ?_
  refine .optional _ rfl h.captures ?_
  refine .optional _ rfl (fun s _ => readsBack_string s) ?_
  refine .optional _ rfl h.beginCaptures ?_
  refine .optional _ rfl (fun s _ => readsBack_string s) ?_
  refine .optional _ rfl h.endCaptures ?_
  refine .optional _ rfl (fun s _ => readsBack_string s) ?_
  refine .optional _ rfl h.whileCaptures ?_
  refine .optional _ rfl h.patterns ?_
  refine .optional _ rfl h.repository ?_
  cases applyEndLast with
  | false => exact .skip rfl (.nil _)
  | true => exact .value (boolOrInt_true room) (.nil _)

theorem rereads_record (room : Nat) (nested : Nat → Read RuleSpec)
    (h : ∀ n, room = n + 1 → Rereads (nested n) toValue) :
    Rereads (record (room + 1) (fun room => fields room nested) empty) toValue := by
  intro cs r rest hr
  have hrestored : r.Restored room nested := by
    refine record_ok (fun n hn => ?_) (restored_empty room nested) hr
    obtain rfl := Nat.succ.inj hn
    exact keeps_restored h
  obtain ⟨ms, hms, hwrites⟩ := hrestored.writes
  rw [hms]
  exact readsBack_record room (fun room => fields room nested) (nodup_keys room nested) hwrites

end Restored

/-- What a rule nests has one level less, as in the reader. -/
theorem rereads : ∀ room, Rereads (read room) toValue
  | 0 => by
    -- No room to open anything: nothing is read.
    intro cs r rest h
    unfold read record at h
    split at h <;> first | cases h | contradiction
  | 1 => rereads_record 0 (fun room => record room (fun _ => []) empty) nofun
  | room + 2 => rereads_record (room + 1) (fun _ => read room) fun _ _ => rereads room

end RuleSpec

namespace Descriptor

/-! ## Grammars -/

/-- The rules of the grammar are read back. -/
structure Restored (room : Nat) (d : Descriptor) : Prop where
  patterns :
    ReadsBack (list room RuleSpec.read) d.patterns (.array (d.patterns.map RuleSpec.toValue))
  repository :
    ReadsBack (map room RuleSpec.read) d.repository (.object (entries RuleSpec.toValue d.repository))
  injections :
    ReadsBack (map room RuleSpec.read) d.injections (.object (entries RuleSpec.toValue d.injections))

variable {room : Nat}

theorem restored_empty (room : Nat) : Restored (room + 1) empty where
  patterns := readsBack_list (List.forall_mem_nil _)
  repository := readsBack_map List.Pairwise.nil (List.forall_mem_nil _)
  injections := readsBack_map List.Pairwise.nil (List.forall_mem_nil _)

theorem keeps_restored (room : Nat) : ∀ f ∈ fields room, f.Keeps (Restored room) := by
  have hmap : Rereads (map room RuleSpec.read) fun ms => .object (entries RuleSpec.toValue ms) :=
    .map fun n _ => RuleSpec.rereads n
  have hlist : Rereads (list room RuleSpec.read) fun rs => .array (rs.map RuleSpec.toValue) :=
    .list fun n _ => RuleSpec.rereads n
  have hrequired {f : FieldReader Descriptor} (h : f.Keeps (Restored room)) :
      f.required.Keeps (Restored room) := h
  simp only [fields, List.forall_mem_cons]
  refine ⟨hrequired ?_, ?_, ?_, ?_, ?_, ?_, ?patterns, ?repository, ?injections, ?_,
    List.forall_mem_nil _⟩
  all_goals refine FieldReader.keeps_of fun cs v rest hv d hd => ?_
  case patterns => exact { hd with patterns := hlist hv }
  case repository => exact { hd with repository := hmap hv }
  case injections => exact { hd with injections := hmap hv }
  all_goals exact { hd with }

theorem readsBack_strings (ss : List String) :
    ReadsBack (list (room + 1) fun _ => string) ss (.strings ss) :=
  readsBack_list fun s _ => readsBack_string s

/-- A field that is left out when empty has a member or the empty list. -/
theorem writes_unlessEmpty {α : Type} {key : String} {read : Read (List α)}
    {set : List α → Descriptor → Descriptor} {xs : List α} {v : Value}
    {fs : List (FieldReader Descriptor)} {ms : List (String × Value)} {a b : Descriptor}
    (hempty : set [] a = a) (hv : ReadsBack read xs v) (h : Writes fs ms (set xs a) b) :
    Writes (.of key read set :: fs) (unlessEmpty key xs v ++ ms) a b := by
  cases xs with
  | nil =>
    rw [hempty] at h
    exact .skip rfl h
  | cons x xs => exact .value hv h

theorem Restored.writes {d : Descriptor} (h : d.Restored (room + 1)) :
    ∃ ms, d.toValue = .object ms ∧ Writes (fields (room + 1)) ms empty d := by
  obtain ⟨scopeName, names, extensions, dottedExtensions, dependencies, firstLineMatch, patterns,
    repository, injections, injectionSelector⟩ := d
  refine ⟨_, rfl, ?_⟩
  simp only [RuleSpec.optionalString, RuleSpec.rulesToValue_eq, RuleSpec.entriesToValue_eq,
    List.append_assoc, List.cons_append, List.nil_append]
  refine .required (readsBack_string scopeName) ?_
  refine .value (readsBack_strings names) ?_
  refine .value (readsBack_strings extensions) ?_
  refine writes_unlessEmpty rfl (readsBack_strings dottedExtensions) ?_
  refine writes_unlessEmpty rfl (readsBack_strings dependencies) ?_
  refine .optional _ rfl (fun s _ => readsBack_string s) ?_
  refine .value h.patterns ?_
  refine writes_unlessEmpty rfl h.repository ?_
  refine writes_unlessEmpty rfl h.injections ?_
  cases injectionSelector with
  | none => exact .skip rfl (.nil _)
  | some s => exact .value (readsBack_some (readsBack_string s)) (.nil _)

theorem nodup_keys (room : Nat) : ((fields room).map (·.key)).Nodup := by
  simp only [fields, List.map_cons, List.map_nil, FieldReader.of, FieldReader.required]
  decide

theorem rereads (room : Nat) : Rereads (record (room + 2) fields empty) toValue := by
  intro cs d rest hd
  have hrestored : d.Restored (room + 1) := by
    refine record_ok (fun n hn => ?_) (restored_empty room) hd
    obtain rfl := Nat.succ.inj hn
    exact keeps_restored (room + 1)
  obtain ⟨ms, hms, hwrites⟩ := hrestored.writes
  rw [hms]
  exact readsBack_record (room + 1) fields (nodup_keys (room + 1)) hwrites

/-- A grammar that was read from any text, in whatever form, is read again from its own text. -/
theorem ofText_toText {text : String} {d : Descriptor} (h : ofText text = .ok d) :
    ofText d.toText = .ok d := by
  obtain ⟨⟨d', rest⟩, hread, h⟩ := bind_ok_iff.1 h
  simp only [] at h
  split_ifs at h
  cases h
  have hback : record maxDepth fields empty (d.toValue.compact ++ []) = .ok (d, []) :=
    rereads 125 hread []
  rw [List.append_nil] at hback
  rw [ofText, wholeText, toText, String.toList_ofList, hback]
  rfl

/-- A grammar in the form of an array, with rules in both forms, an empty map, a number for a truth
value, escapes, and keys that are out of order and come twice. -/
def mixedText : String :=
  "[\"s\",[],[],[],[],null,[[\"#b\"],\x7b\"end\":\"\\ud83d\\ude00\",\"captures\":\x7b\x7d," ++
  "\"applyEndPatternLast\":-2\x7d]," ++
  "\x7b\"b\":[],\"a\":\x7b\"name\":\"\\u00e9\"\x7d,\"b\":[null,\"c\"]\x7d]"

theorem ofText_toText_mixedText :
    ∃ d, ofText mixedText = .ok d ∧ ofText d.toText = .ok d ∧
      d.patterns.map (fun r => (r.reference, r.endPattern, r.applyEndLast)) =
        [(some "#b", none, false), (none, some "😀", true)] ∧
      d.patterns.map (·.captures.isSome) = [false, true] ∧
      d.repository.map (fun m => (m.1, m.2.name)) = [("a", some "é"), ("b", some "c")] := by
  have hread : (ofText mixedText).toOption.any (fun d =>
      d.patterns.map (fun r => (r.reference, r.endPattern, r.applyEndLast)) =
        [(some "#b", none, false), (none, some "😀", true)] ∧
      d.patterns.map (·.captures.isSome) = [false, true] ∧
      d.repository.map (fun m => (m.1, m.2.name)) = [("a", some "é"), ("b", some "c")]) = true := by
    decide +kernel
  obtain ⟨d, hd, hfacts⟩ := exists_ok_of_any hread
  exact ⟨d, hd, ofText_toText hd, of_decide_eq_true hfacts⟩

end Descriptor

end Scopelight
