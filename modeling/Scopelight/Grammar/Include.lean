import Scopelight.Text.Word

/-!
# Include references
-/

namespace Scopelight

open Text

/-- What an include points at. -/
inductive IncludeTarget where
  /-- `#name`: an entry of an enclosing repository. -/
  | entry (name : String)
  /-- `$self`: the top-level rules of the grammar that has the include. -/
  | self
  /-- `$base`: the top-level rules of the grammar the document began in. -/
  | base
  /-- `scope`: the top-level rules of another grammar. -/
  | grammar (scope : String)
  /-- `scope#name`: an entry of another grammar's top-level repository. -/
  | grammarEntry (scope name : String)
deriving DecidableEq, Repr

namespace IncludeTarget

def ofString (reference : String) : IncludeTarget :=
  if reference = "$self" then self
  else if reference = "$base" then base
  else match cutAt '#' reference.toList with
    | some ([], name) => entry (String.ofList name)
    | some (scope, name) => grammarEntry (String.ofList scope) (String.ofList name)
    | none => grammar reference

/-- The grammar that must be registered for the include to mean anything. -/
def foreignScope? : IncludeTarget → Option String
  | grammar scope | grammarEntry scope _ => some scope
  | _ => none

end IncludeTarget

end Scopelight
