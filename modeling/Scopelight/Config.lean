import Scopelight.Json.Reader

/-!
# Configuration of tokenizers
-/

namespace Scopelight

open Json

/-- Where a region's end pattern stands among rules that match at the same place. -/
inductive EndPriority where
  /-- Before the nested rules, unless the region says otherwise. -/
  | declared
  | alwaysFirst
  | alwaysLast
deriving DecidableEq, Repr

/-- Whether the end pattern is tried after the nested rules. -/
def EndPriority.endLast : EndPriority → Bool → Bool
  | declared, applyLast => applyLast
  | alwaysFirst, _ => false
  | alwaysLast, _ => true

structure Config where
  /-- How many nested includes one expansion follows. -/
  includeDepth : Nat
  endPriority : EndPriority
deriving DecidableEq, Repr

namespace Config

def default : Config := ⟨64, .declared⟩

def priorityNames : List (String × EndPriority) := [
  ("declared", .declared), ("always_first", .alwaysFirst), ("always_last", .alwaysLast)]

def fields (room : Nat) : List (FieldReader Config) := [
  .of "include_depth_limit" word64 fun n c => { c with includeDepth := n },
  .of "end_pattern_priority" (oneOf room priorityNames) fun p c => { c with endPriority := p }]

/-- Read a configuration; what it does not mention keeps its default. -/
def ofText (text : String) : Except Fault Config :=
  wholeText (record maxDepth fields default) text

end Config

/-- The name of a priority in a configuration. -/
def EndPriority.name : EndPriority → String
  | declared => "declared"
  | alwaysFirst => "always_first"
  | alwaysLast => "always_last"

end Scopelight
