import Scopelight.Grammar.Descriptor
import Scopelight.Grammar.Error
import Scopelight.Text.Sorted

/-!
# Folders of grammars

A folder provides the grammars in its `json` files, in the order of their names.
-/

namespace Scopelight

open Text

/-- The names of the grammar files among the entries of a folder. -/
def grammarFiles (entries : List (String × Entry)) : List String :=
  sorted <| entries.filterMap fun
    | (name, .file _) => if Path.extension? name = some "json" then some name else none
    | (_, .directory) => none

/-- Read one grammar from a file. -/
def Descriptor.ofFile (d : Disk) (path : String) : Except GrammarError Descriptor := do
  let text ← (d.readText path).mapError GrammarError.io
  (Descriptor.ofText text).mapError GrammarError.json

/-- Read the grammars of a folder. -/
def Descriptor.ofFolder (d : Disk) (path : String) : Except GrammarError (List Descriptor) := do
  let entries ← (d.list path).mapError GrammarError.io
  (grammarFiles entries).mapM fun name => Descriptor.ofFile d (path ++ "/" ++ name)

end Scopelight
