import Scopelight.Grammar.Dogma
import Scopelight.Registry.Basic

/-!
# Grammars at hand

The grammars that a registry can start with.
-/

namespace Scopelight

def builtinGrammars : List Descriptor := [Dogma.grammar]

namespace Registry

/-- A registry of the grammars at hand. -/
def builtin : Except GrammarError Registry := empty.register builtinGrammars

end Registry

end Scopelight
