import Scopelight.Disk
import Scopelight.Json.Reader
import Scopelight.Pattern

/-!
# Errors of grammars

Why a grammar cannot be compiled or loaded, or a document cannot be tokenized. An include that leads
nowhere is no error: it stands for nothing.
-/

namespace Scopelight

/-- What is wrong with the structure of a grammar. -/
inductive Flaw where
  | missingScopeName
  | matchAndBegin
  | endAndWhile
  | beginAlone
  | endWithoutBegin
  | captureKey (key : String)
deriving DecidableEq, Repr

def Flaw.message : Flaw → String
  | missingScopeName => "missing scope name"
  | matchAndBegin => "rule has both \x60match\x60 and \x60begin\x60"
  | endAndWhile => "rule has both \x60end\x60 and \x60while\x60"
  | beginAlone => "\x60begin\x60 without \x60end\x60 or \x60while\x60"
  | endWithoutBegin => "\x60end\x60 or \x60while\x60 without \x60begin\x60"
  | captureKey key => "capture key \x60" ++ key ++ "\x60 is not a group number"

inductive GrammarError where
  /-- A pattern of a rule was refused; `rule` is its place in the descriptor. -/
  | invalidPattern (scope rule : String) (cause : PatternError)
  | unknownScope (scope : String)
  | malformed (scope rule : String) (flaw : Flaw)
  | json (fault : Json.Fault)
  | io (cause : IoError)
  /-- No table is long enough for the captures up to the group of a capture key. Nothing is reported
  then: the program stops. -/
  | overflow (key : String)
deriving DecidableEq, Repr

def GrammarError.message : GrammarError → String
  | invalidPattern scope rule cause =>
    "invalid pattern in \x60" ++ scope ++ "\x60 at " ++ rule ++ ": " ++ cause.message
  | unknownScope scope => "unknown scope \x60" ++ scope ++ "\x60"
  | malformed scope rule flaw =>
    "malformed grammar \x60" ++ scope ++ "\x60 at " ++ rule ++ ": " ++ flaw.message
  | json _ => "failed to parse grammar descriptor"
  | io cause => "IO error: " ++ cause.message
  | overflow key => "no table is long enough for capture key \x60" ++ key ++ "\x60"

end Scopelight
