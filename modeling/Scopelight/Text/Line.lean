import Scopelight.Text.Word

/-!
# Lines of a document

A document is cut after each line feed. A line keeps its terminator and knows how many bytes come
before it; a final line feed starts no further line, and an empty document has none.
-/

namespace Scopelight.Text

/-- Length of a text in UTF-8. -/
def byteLength : List Char → Nat
  | [] => 0
  | c :: cs => c.utf8Size + byteLength cs

/-- A line with its terminator, and the bytes of the document before it. -/
structure Line where
  offset : Nat
  text : List Char
deriving DecidableEq, Repr

/-- The line without `"\n"`, `"\r\n"` or a lone final `"\r"`. -/
def stripTerminator (cs : List Char) : List Char :=
  match cs.reverse with
  | '\n' :: '\r' :: rest => rest.reverse
  | '\n' :: rest => rest.reverse
  | '\r' :: rest => rest.reverse
  | _ => cs

def Line.content (l : Line) : List Char := stripTerminator l.text

def Line.terminator (l : Line) : List Char := l.text.drop l.content.length

/-- Cut after every line feed. -/
def cutLines : List Char → List (List Char)
  | [] => []
  | c :: cs =>
    if c = '\n' then [c] :: cutLines cs
    else match cutLines cs with
      | [] => [[c]]
      | line :: lines => (c :: line) :: lines

/-- Each piece with the bytes before it. -/
def withOffsets : Nat → List (List Char) → List Line
  | _, [] => []
  | offset, piece :: pieces =>
    ⟨offset, piece⟩ :: withOffsets (offset + byteLength piece) pieces

/-- The lines of a document. -/
def linesOf (doc : String) : List Line := withOffsets 0 (cutLines doc.toList)

/-- The first line of a text, without its line feed and a carriage return before that. -/
def firstLine (cs : List Char) : List Char :=
  match cutAt '\n' cs with
  | none => cs
  | some (line, _) =>
    match line.reverse with
    | '\r' :: rest => rest.reverse
    | _ => line

end Scopelight.Text
