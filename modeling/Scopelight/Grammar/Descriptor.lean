import Scopelight.Json.Reader
import Scopelight.Json.Value

/-!
# Grammars as authored

The JSON form in which grammars are exchanged. Every field of a rule is optional; what a combination
of fields means is decided when the grammar is compiled. Maps are kept sorted by their keys.
-/

namespace Scopelight

open Json

/-- A rule as authored. -/
structure RuleSpec where
  /-- `#name`, `$self`, `$base`, a scope, or a scope followed by `#name`. -/
  reference : Option String
  name : Option String
  contentName : Option String
  matchPattern : Option String
  captures : Option (List (String × RuleSpec))
  beginPattern : Option String
  beginCaptures : Option (List (String × RuleSpec))
  endPattern : Option String
  endCaptures : Option (List (String × RuleSpec))
  whilePattern : Option String
  whileCaptures : Option (List (String × RuleSpec))
  patterns : Option (List RuleSpec)
  repository : Option (List (String × RuleSpec))
  /-- Try the end pattern after the nested rules when both match at the same place. -/
  applyEndLast : Bool

/-- A rule that says nothing. -/
def RuleSpec.empty : RuleSpec where
  reference := none
  name := none
  contentName := none
  matchPattern := none
  captures := none
  beginPattern := none
  beginCaptures := none
  endPattern := none
  endCaptures := none
  whilePattern := none
  whileCaptures := none
  patterns := none
  repository := none
  applyEndLast := false

/-- A grammar as authored. -/
structure Descriptor where
  scopeName : String
  /-- Names that select the grammar. -/
  names : List String
  /-- File extensions with their dot. -/
  extensions : List String
  /-- Extensions that have further dots. -/
  dottedExtensions : List String
  /-- Scopes that the grammar needs besides those it includes. -/
  dependencies : List String
  /-- Recognises the first line of a document. -/
  firstLineMatch : Option String
  patterns : List RuleSpec
  /-- Rules that `#name` includes reach. -/
  repository : List (String × RuleSpec)
  /-- Rules by the selector of the places where they are injected. -/
  injections : List (String × RuleSpec)
  /-- Injects the whole grammar into others. -/
  injectionSelector : Option String

/-- A grammar that says nothing. -/
def Descriptor.empty : Descriptor where
  scopeName := ""
  names := []
  extensions := []
  dottedExtensions := []
  dependencies := []
  firstLineMatch := none
  patterns := []
  repository := []
  injections := []
  injectionSelector := none

namespace RuleSpec

/-- The fields of a rule in order. `nested` reads rules inside its lists and maps. -/
def fields (room : Nat) (nested : Nat → Read RuleSpec) : List (FieldReader RuleSpec) := [
  .of "include" (optional string) fun s r => { r with reference := s },
  .of "name" (optional string) fun s r => { r with name := s },
  .of "contentName" (optional string) fun s r => { r with contentName := s },
  .of "match" (optional string) fun s r => { r with matchPattern := s },
  .of "captures" (optional (map room nested)) fun m r => { r with captures := m },
  .of "begin" (optional string) fun s r => { r with beginPattern := s },
  .of "beginCaptures" (optional (map room nested)) fun m r => { r with beginCaptures := m },
  .of "end" (optional string) fun s r => { r with endPattern := s },
  .of "endCaptures" (optional (map room nested)) fun m r => { r with endCaptures := m },
  .of "while" (optional string) fun s r => { r with whilePattern := s },
  .of "whileCaptures" (optional (map room nested)) fun m r => { r with whileCaptures := m },
  .of "patterns" (optional (list room nested)) fun rs r => { r with patterns := rs },
  .of "repository" (optional (map room nested)) fun m r => { r with repository := m },
  .of "applyEndPatternLast" (boolOrInt room) fun b r => { r with applyEndLast := b }]

/-- A rule with room for so many levels, of which it takes one and its lists and maps another. -/
def read : Nat → Read RuleSpec
  | 0 => record 0 (fun _ => []) empty
  | 1 => record 1 (fun room => fields room fun room => record room (fun _ => []) empty) empty
  | room + 2 => record (room + 2) (fun inner => fields inner fun _ => read room) empty

def optionalString (key : String) (s : Option String) : List (String × Value) :=
  s.toList.map fun s => (key, .string s)

mutual

/-- A rule with the fields that it has. -/
def toValue : RuleSpec → Value
  | ⟨reference, name, contentName, matchPattern, captures, beginPattern, beginCaptures, endPattern,
      endCaptures, whilePattern, whileCaptures, patterns, repository, applyEndLast⟩ =>
    .object (optionalString "include" reference ++ optionalString "name" name ++
      optionalString "contentName" contentName ++ optionalString "match" matchPattern ++
      optionalMap "captures" captures ++ optionalString "begin" beginPattern ++
      optionalMap "beginCaptures" beginCaptures ++ optionalString "end" endPattern ++
      optionalMap "endCaptures" endCaptures ++ optionalString "while" whilePattern ++
      optionalMap "whileCaptures" whileCaptures ++ optionalRules "patterns" patterns ++
      optionalMap "repository" repository ++
      (if applyEndLast then [("applyEndPatternLast", .bool true)] else []))

def optionalMap (key : String) : Option (List (String × RuleSpec)) → List (String × Value)
  | none => []
  | some ms => [(key, .object (entriesToValue ms))]

def optionalRules (key : String) : Option (List RuleSpec) → List (String × Value)
  | none => []
  | some rs => [(key, .array (rulesToValue rs))]

def entriesToValue : List (String × RuleSpec) → List (String × Value)
  | [] => []
  | (k, r) :: ms => (k, r.toValue) :: entriesToValue ms

def rulesToValue : List RuleSpec → List Value
  | [] => []
  | r :: rs => r.toValue :: rulesToValue rs

end

end RuleSpec

namespace Descriptor

def fields (room : Nat) : List (FieldReader Descriptor) := [
  (FieldReader.of "scopeName" string fun s d => { d with scopeName := s }).required,
  .of "names" (list room fun _ => string) fun ss d => { d with names := ss },
  .of "extensions" (list room fun _ => string) fun ss d => { d with extensions := ss },
  .of "extensionsWithDot" (list room fun _ => string) fun ss d =>
    { d with dottedExtensions := ss },
  .of "dependencies" (list room fun _ => string) fun ss d => { d with dependencies := ss },
  .of "firstLineMatch" (optional string) fun s d => { d with firstLineMatch := s },
  .of "patterns" (list room RuleSpec.read) fun rs d => { d with patterns := rs },
  .of "repository" (map room RuleSpec.read) fun m d => { d with repository := m },
  .of "injections" (map room RuleSpec.read) fun m d => { d with injections := m },
  .of "injectionSelector" (optional string) fun s d => { d with injectionSelector := s }]

/-- Read a grammar from JSON. -/
def ofText (text : String) : Except Fault Descriptor :=
  wholeText (record maxDepth fields empty) text

/-- A list that is left out when empty. -/
def unlessEmpty {α : Type} (key : String) (xs : List α) (v : Value) : List (String × Value) :=
  if xs.isEmpty then [] else [(key, v)]

def toValue (d : Descriptor) : Value :=
  .object ([("scopeName", .string d.scopeName), ("names", .strings d.names),
      ("extensions", .strings d.extensions)] ++
    unlessEmpty "extensionsWithDot" d.dottedExtensions (.strings d.dottedExtensions) ++
    unlessEmpty "dependencies" d.dependencies (.strings d.dependencies) ++
    RuleSpec.optionalString "firstLineMatch" d.firstLineMatch ++
    [("patterns", .array (RuleSpec.rulesToValue d.patterns))] ++
    unlessEmpty "repository" d.repository (.object (RuleSpec.entriesToValue d.repository)) ++
    unlessEmpty "injections" d.injections (.object (RuleSpec.entriesToValue d.injections)) ++
    RuleSpec.optionalString "injectionSelector" d.injectionSelector)

/-- The grammar as JSON on one line. -/
def toText (d : Descriptor) : String := String.ofList d.toValue.compact

end Descriptor

end Scopelight
