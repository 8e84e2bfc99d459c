import Scopelight.Grammar.Compile
import Scopelight.Proofs.RoundTrip

/-!
# Places in a grammar

A grammar is authored as JSON, so what stands in it has a place: the keys and positions that lead
there (`Value.At`). Errors call places by their keys and positions too, with one exception. The
captures that a region has for all its patterns stand in for the captures that one pattern has not,
and are then called by the key of the missing ones (`Value.CalledAt`). `Value.Stands` puts this in
terms of paths, and says to which paths a path at a rule can be extended.
-/

namespace Scopelight

namespace Json

/-- A step into a value: to a member of an object or to an item of a list. -/
inductive Access where
  | key (k : String)
  | item (i : Nat)
deriving DecidableEq, Repr

/-- Behind other accesses a key follows a period, and a position stands in brackets. -/
def Access.text : Access → String
  | key k => "." ++ k
  | item i => "[" ++ toString i ++ "]"

def behindText : List Access → String
  | [] => ""
  | a :: place => a.text ++ behindText place

/-- A place as text: keys are joined by periods. -/
def placeText : List Access → String
  | .key k :: place => k ++ behindText place
  | place => behindText place

theorem behindText_append (place rest : List Access) :
    behindText (place ++ rest) = behindText place ++ behindText rest := by
  induction place with
  | nil => simp [behindText]
  | cons a place ih => rw [List.cons_append, behindText, ih, behindText, String.append_assoc]

theorem placeText_append {place : List Access} (h : place ≠ []) (rest : List Access) :
    placeText (place ++ rest) = placeText place ++ behindText rest := by
  match place, h with
  | .key k :: place, _ => simp only [List.cons_append, placeText, behindText_append,
      String.append_assoc]
  | .item i :: place, _ => simp only [List.cons_append, placeText, ← behindText_append]

/-- The value that stands at a place inside another one. -/
inductive Value.At : Value → List Access → Value → Prop
  | here (v : Value) : v.At [] v
  | member {ms : List (String × Value)} {k : String} {v w : Value} {place : List Access}
      (hk : (k, v) ∈ ms) (h : v.At place w) : (object ms).At (.key k :: place) w
  | item {vs : List Value} {i : Nat} {v w : Value} {place : List Access}
      (hi : vs[i]? = some v) (h : v.At place w) : (array vs).At (.item i :: place) w

/-- The keys of the patterns of a region, each with the key of its own captures. -/
def regionKeys : List (String × String) :=
  [("begin", "beginCaptures"), ("end", "endCaptures"), ("while", "whileCaptures")]

/-- The value that stands at a place, and what errors call the place. Where a member `captures`
stands in for the captures of a pattern, it is called by their key. -/
inductive Value.CalledAt : Value → List Access → List Access → Value → Prop
  | here (v : Value) : v.CalledAt [] [] v
  | member {ms : List (String × Value)} {k : String} {v w : Value} {place called : List Access}
      (hk : (k, v) ∈ ms) (h : v.CalledAt place called w) :
      (object ms).CalledAt (.key k :: place) (.key k :: called) w
  | item {vs : List Value} {i : Nat} {v w : Value} {place called : List Access}
      (hi : vs[i]? = some v) (h : v.CalledAt place called w) :
      (array vs).CalledAt (.item i :: place) (.item i :: called) w
  | shared {ms : List (String × Value)} {k own source : String} {v w : Value}
      {place called : List Access} (hkeys : (k, own) ∈ regionKeys)
      (hsource : (k, .string source) ∈ ms) (hmissing : ∀ u, (own, u) ∉ ms)
      (hshared : ("captures", v) ∈ ms) (h : v.CalledAt place called w) :
      (object ms).CalledAt (.key "captures" :: place) (.key own :: called) w

/-- Wherever there are captures for all patterns of a region, each pattern has its own as well. -/
inductive Value.OwnCaptures : Value → Prop
  | bool (b : Bool) : (bool b).OwnCaptures
  | number (n : Nat) : (number n).OwnCaptures
  | string (s : String) : (string s).OwnCaptures
  | array {vs : List Value} (h : ∀ v ∈ vs, v.OwnCaptures) : (array vs).OwnCaptures
  | object {ms : List (String × Value)}
      (hown : ∀ keys ∈ regionKeys, ∀ source shared, (keys.1, .string source) ∈ ms →
        ("captures", shared) ∈ ms → ∃ own, (keys.2, own) ∈ ms)
      (h : ∀ m ∈ ms, m.2.OwnCaptures) : (object ms).OwnCaptures

namespace Value

variable {u v w : Value} {ms : List (String × Value)} {place called : List Access}

theorem CalledAt.at (h : v.CalledAt place called w) : v.At place w := by
  induction h with
  | here v => exact .here v
  | member hk _ ih => exact .member hk ih
  | item hi _ ih => exact .item hi ih
  | shared _ _ _ hshared _ ih => exact .member hshared ih

theorem CalledAt.trans (h : u.CalledAt place called v) {place' called' : List Access}
    (h' : v.CalledAt place' called' w) : u.CalledAt (place ++ place') (called ++ called') w := by
  induction h with
  | here v => exact h'
  | member hk _ ih => exact .member hk (ih h')
  | item hi _ ih => exact .item hi (ih h')
  | shared hkeys hsource hmissing hshared _ ih =>
    exact .shared hkeys hsource hmissing hshared (ih h')

theorem at_string_iff {s : String} : (string s).At place w ↔ place = [] ∧ w = string s := by
  constructor
  · rintro ⟨⟩
    exact ⟨rfl, rfl⟩
  · rintro ⟨rfl, rfl⟩
    exact .here _

theorem at_array_iff {vs : List Value} : (array vs).At place w ↔
    place = [] ∧ w = array vs ∨
      ∃ m ∈ vs.zipIdx, ∃ rest, place = .item m.2 :: rest ∧ m.1.At rest w := by
  constructor
  · rintro (⟨⟩ | ⟨_, _⟩ | ⟨hi, h⟩)
    · exact .inl ⟨rfl, rfl⟩
    · exact .inr ⟨(_, _), List.mem_zipIdx_iff_getElem?.2 hi, _, rfl, h⟩
  · rintro (⟨rfl, rfl⟩ | ⟨⟨v, i⟩, hi, rest, rfl, h⟩)
    · exact .here _
    · exact .item (List.mem_zipIdx_iff_getElem?.1 hi) h

theorem at_object_iff : (object ms).At place w ↔
    place = [] ∧ w = object ms ∨
      ∃ m ∈ ms, ∃ rest, place = .key m.1 :: rest ∧ m.2.At rest w := by
  constructor
  · rintro (⟨⟩ | ⟨hk, h⟩)
    · exact .inl ⟨rfl, rfl⟩
    · exact .inr ⟨(_, _), hk, _, rfl, h⟩
  · rintro (⟨rfl, rfl⟩ | ⟨⟨k, v⟩, hk, rest, rfl, h⟩)
    · exact .here _
    · exact .member hk h

theorem ownCaptures_array_iff {vs : List Value} :
    (array vs).OwnCaptures ↔ ∀ v ∈ vs, v.OwnCaptures :=
  ⟨fun h => (by cases h with | array h => exact h), .array⟩

theorem ownCaptures_object_iff : (object ms).OwnCaptures ↔
    (∀ keys ∈ regionKeys, ∀ source shared, (keys.1, .string source) ∈ ms →
      ("captures", shared) ∈ ms → ∃ own, (keys.2, own) ∈ ms) ∧ ∀ m ∈ ms, m.2.OwnCaptures :=
  ⟨fun h => (by cases h with | object hown h => exact ⟨hown, h⟩), fun h => .object h.1 h.2⟩

theorem CalledAt.called_eq (h : v.CalledAt place called w) (hown : v.OwnCaptures) :
    called = place := by
  induction h with
  | here v => rfl
  | member hk _ ih => rw [ih ((ownCaptures_object_iff.1 hown).2 _ hk)]
  | item hi _ ih => rw [ih (ownCaptures_array_iff.1 hown _ (List.mem_of_getElem? hi))]
  | shared hkeys hsource hmissing hshared _ _ =>
    obtain ⟨u, hu⟩ := (ownCaptures_object_iff.1 hown).1 _ hkeys _ _ hsource hshared
    exact absurd hu (hmissing u)

end Value

end Json

open Json

/-! ## Paths -/

theorem childPath_placeText {place : List Access} (h : placeText place ≠ "") (k : String) :
    childPath (placeText place) k = placeText (place ++ [.key k]) := by
  have hplace : place ≠ [] := by
    rintro rfl
    exact h rfl
  rw [childPath, if_neg (by simpa using h), placeText_append hplace, behindText, behindText,
    Access.text, String.append_empty, String.append_assoc]

theorem childPath_ne_empty {path : String} (h : path ≠ "") (k : String) :
    childPath path k ≠ "" := by
  rw [childPath, if_neg (by simpa using h)]
  simp

/-- What is refused at the path is, for errors, inside this value. -/
def Json.Value.Stands (root : Value) (path : String) (v : Value) : Prop :=
  path ≠ "" ∧ ∃ place called, root.CalledAt place called v ∧ path = placeText called

namespace Json.Value

variable {root v : Value} {ms : List (String × Value)} {path k : String}

theorem stands_member (hk : (k, v) ∈ ms) (hne : k ≠ "") : (object ms).Stands k v := by
  refine ⟨hne, _, _, .member hk (.here v), ?_⟩
  simp [placeText, behindText]

theorem Stands.step {u : Value} {a : Access} (h : root.Stands path u)
    (hstep : u.CalledAt [a] [.key k] v) : root.Stands (childPath path k) v := by
  obtain ⟨hne, place, called, hcalled, rfl⟩ := h
  exact ⟨childPath_ne_empty hne k, _, _, hcalled.trans hstep, childPath_placeText hne k⟩

theorem Stands.key (h : root.Stands path (.object ms)) (hk : (k, v) ∈ ms) :
    root.Stands (childPath path k) v :=
  h.step (.member hk (.here v))

theorem Stands.shared (h : root.Stands path (.object ms)) {own source : String}
    (hkeys : (k, own) ∈ regionKeys) (hsource : (k, .string source) ∈ ms)
    (hmissing : ∀ u, (own, u) ∉ ms) (hshared : ("captures", v) ∈ ms) :
    root.Stands (childPath path own) v :=
  h.step (.shared hkeys hsource hmissing hshared (.here v))

theorem Stands.item {vs : List Value} {i : Nat} (h : root.Stands path (.array vs))
    (hi : vs[i]? = some v) : root.Stands (path ++ ("[" ++ toString i ++ "]")) v := by
  obtain ⟨hne, place, called, hcalled, rfl⟩ := h
  have hplace : called ≠ [] := by
    rintro rfl
    exact hne rfl
  refine ⟨by simp, _, _, hcalled.trans (.item hi (.here v)), ?_⟩
  rw [placeText_append hplace, behindText, behindText, Access.text, String.append_empty]

end Json.Value

theorem itemPath_eq (path : String) (i : Nat) :
    itemPath path i = childPath path "patterns" ++ ("[" ++ toString i ++ "]") := by
  have htext : "patterns[" = "patterns" ++ "[" := rfl
  unfold itemPath childPath
  split <;> simp only [htext, String.append_assoc]

/-! ## Members of rules -/

namespace RuleSpec

/-- The members of a rule that is written. -/
def members (r : RuleSpec) : List (String × Value) :=
  optionalString "include" r.reference ++ optionalString "name" r.name ++
    optionalString "contentName" r.contentName ++ optionalString "match" r.matchPattern ++
    optionalMap "captures" r.captures ++ optionalString "begin" r.beginPattern ++
    optionalMap "beginCaptures" r.beginCaptures ++ optionalString "end" r.endPattern ++
    optionalMap "endCaptures" r.endCaptures ++ optionalString "while" r.whilePattern ++
    optionalMap "whileCaptures" r.whileCaptures ++ optionalRules "patterns" r.patterns ++
    optionalMap "repository" r.repository ++
    (if r.applyEndLast then [("applyEndPatternLast", .bool true)] else [])

theorem toValue_eq (r : RuleSpec) : r.toValue = .object r.members := by
  obtain ⟨_⟩ := r
  rw [toValue]
  rfl

/-- The texts of a rule by their keys. -/
def texts (r : RuleSpec) : List (String × Option String) :=
  [("include", r.reference), ("name", r.name), ("contentName", r.contentName),
    ("match", r.matchPattern), ("begin", r.beginPattern), ("end", r.endPattern),
    ("while", r.whilePattern)]

/-- The maps of a rule by their keys. -/
def maps (r : RuleSpec) : List (String × Option (List (String × RuleSpec))) :=
  [("captures", r.captures), ("beginCaptures", r.beginCaptures), ("endCaptures", r.endCaptures),
    ("whileCaptures", r.whileCaptures), ("repository", r.repository)]

section Members

variable {r : RuleSpec} {k key : String} {v : Value}

theorem mem_optionalString {s : Option String} :
    (k, v) ∈ optionalString key s ↔ k = key ∧ ∃ t, s = some t ∧ v = .string t := by
  cases s <;> simp [optionalString]

theorem mem_optionalMap {ms : Option (List (String × RuleSpec))} :
    (k, v) ∈ optionalMap key ms ↔
      k = key ∧ ∃ es, ms = some es ∧ v = .object (entries toValue es) := by
  cases ms <;> simp [optionalMap_eq]

theorem mem_optionalRules {rs : Option (List RuleSpec)} :
    (k, v) ∈ optionalRules key rs ↔
      k = key ∧ ∃ specs, rs = some specs ∧ v = .array (specs.map toValue) := by
  cases rs <;> simp [optionalRules_eq]

theorem text_mem {s : String} (h : (k, some s) ∈ r.texts) : (k, .string s) ∈ r.members := by
  simp only [texts, List.mem_cons, Prod.mk.injEq, List.not_mem_nil, or_false] at h
  rcases h with ⟨rfl, h⟩ | ⟨rfl, h⟩ | ⟨rfl, h⟩ | ⟨rfl, h⟩ | ⟨rfl, h⟩ | ⟨rfl, h⟩ | ⟨rfl, h⟩
  all_goals simp [members, mem_optionalString, ← h]

theorem map_mem {es : List (String × RuleSpec)} (h : (k, some es) ∈ r.maps) :
    (k, .object (entries toValue es)) ∈ r.members := by
  simp only [maps, List.mem_cons, Prod.mk.injEq, List.not_mem_nil, or_false] at h
  rcases h with ⟨rfl, h⟩ | ⟨rfl, h⟩ | ⟨rfl, h⟩ | ⟨rfl, h⟩ | ⟨rfl, h⟩
  all_goals simp [members, mem_optionalMap, ← h]

theorem not_mem_of_map (h : (k, none) ∈ r.maps) : (k, v) ∉ r.members := by
  simp only [maps, List.mem_cons, Prod.mk.injEq, List.not_mem_nil, or_false] at h
  rcases h with ⟨rfl, h⟩ | ⟨rfl, h⟩ | ⟨rfl, h⟩ | ⟨rfl, h⟩ | ⟨rfl, h⟩
  all_goals simp [members, mem_optionalString, mem_optionalMap, mem_optionalRules, ← h]

theorem patterns_mem {specs : List RuleSpec} (h : r.patterns = some specs) :
    ("patterns", .array (specs.map toValue)) ∈ r.members := by
  simp [members, mem_optionalRules, h]

end Members

end RuleSpec

namespace Json.Value

section Stands

variable {root : Value} {path k : String} {r : RuleSpec} (h : root.Stands path r.toValue)
include h

theorem Stands.text {s : String} (hs : (k, some s) ∈ r.texts) :
    root.Stands (childPath path k) (.string s) := by
  rw [RuleSpec.toValue_eq] at h
  exact h.key (RuleSpec.text_mem hs)

theorem Stands.map {es : List (String × RuleSpec)} (hes : (k, some es) ∈ r.maps) :
    root.Stands (childPath path k) (.object (entries RuleSpec.toValue es)) := by
  rw [RuleSpec.toValue_eq] at h
  exact h.key (RuleSpec.map_mem hes)

/-- Captures for all patterns of a region stand in for those that one of them has not. -/
theorem Stands.map_shared {own s : String} {es : List (String × RuleSpec)}
    (hkeys : (k, own) ∈ regionKeys) (hs : (k, some s) ∈ r.texts) (hmissing : (own, none) ∈ r.maps)
    (hes : ("captures", some es) ∈ r.maps) :
    root.Stands (childPath path own) (.object (entries RuleSpec.toValue es)) := by
  rw [RuleSpec.toValue_eq] at h
  exact h.shared hkeys (RuleSpec.text_mem hs) (fun _ => RuleSpec.not_mem_of_map hmissing)
    (RuleSpec.map_mem hes)

theorem Stands.patterns {specs : List RuleSpec} (hspecs : r.patterns = some specs) :
    root.Stands (childPath path "patterns") (.array (specs.map RuleSpec.toValue)) := by
  rw [RuleSpec.toValue_eq] at h
  exact h.key (RuleSpec.patterns_mem hspecs)

end Stands

variable {root : Value} {path : String}

theorem Stands.entry {es : List (String × RuleSpec)}
    (h : root.Stands path (.object (entries RuleSpec.toValue es))) {m : String × RuleSpec}
    (hm : m ∈ es) : root.Stands (childPath path m.1) m.2.toValue :=
  h.key (List.mem_map_of_mem hm)

theorem Stands.rule {specs : List RuleSpec}
    (h : root.Stands (childPath path "patterns") (.array (specs.map RuleSpec.toValue))) {i : Nat}
    {spec : RuleSpec} (hi : specs[i]? = some spec) :
    root.Stands (itemPath path i) spec.toValue := by
  rw [itemPath_eq]
  refine h.item ?_
  rw [List.getElem?_map, hi]
  rfl

end Json.Value

end Scopelight
