import Scopelight.Json.Value
import Scopelight.Text.Offset
import Scopelight.Text.Quoted
import Scopelight.Tokenizer.Output

/-!
# Reports

Tokens as a table or as JSON.
-/

namespace Scopelight.CommandLine

open Text Json

/-- Blanks that fill a text up to a width. -/
def padding (width : Nat) (s : String) : String :=
  String.ofList (List.replicate (width - s.length) ' ')

def padLeft (width : Nat) (s : String) : String := padding width s ++ s

def padRight (width : Nat) (s : String) : String := s ++ padding width s

/-- A token on a line: its offsets, its text and its scopes. -/
def tokenLine (t : Token) (text : List Char) : String :=
  padLeft 6 (toString t.start) ++ ".." ++ padRight 6 (toString t.stop) ++ " " ++
    padRight 24 (quoted (String.ofList text)) ++ " " ++ " ".intercalate t.scopes ++ "\n"

/-- The lines of tokens that follow each other, with the text from `offset` on. -/
def tokenLines : Nat → List Char → List Token → List String
  | _, _, [] => []
  | offset, rest, t :: ts =>
    let (text, rest) := cutBytes (cutBytes rest (t.start - offset)).2 (t.stop - t.start)
    tokenLine t text :: tokenLines t.stop rest ts

def tokenTable (doc : String) (ts : List Token) : String :=
  String.join (tokenLines 0 doc.toList ts)

def tokenValue (t : Token) : Value :=
  .object [("scopes", .strings t.scopes),
    ("range", .object [("start", .number t.start), ("end", .number t.stop)])]

def tokensJson (ts : List Token) : String :=
  String.ofList ((Value.array (ts.map tokenValue)).pretty 0) ++ "\n"

end Scopelight.CommandLine
