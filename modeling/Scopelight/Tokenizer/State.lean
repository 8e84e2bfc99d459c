import Scopelight.Grammar.Rule
import Scopelight.Text.Quoted

/-!
# States between lines

What a tokenizer carries from one line to the next: the regions that are open.
-/

namespace Scopelight

open Text

/-- An open region, or the document at the bottom. -/
structure Frame where
  /-- The rule that opened the region; for the document, the top-level rules of its grammar. -/
  rule : RuleRef
  /-- Scopes of the delimiters. -/
  nameScopes : List String
  /-- Scopes between the delimiters. -/
  contentScopes : List String
  /-- The end or while pattern of this region. -/
  ending : Option Pattern
  /-- The opening match ran to the end of its line. -/
  openedAtLineEnd : Bool
  /-- Where `\G` matches again once the region is closed. -/
  anchor : Option Nat
  /-- Where on the current line the region was opened. -/
  entered : Option Nat
deriving DecidableEq, Repr

/-- The document and the regions open in it, the innermost first. -/
structure State where
  document : Frame
  regions : List Frame
deriving DecidableEq, Repr

namespace State

def initial (root : RuleRef) (scope : String) : State :=
  ⟨⟨root, [scope], [scope], none, false, none, none⟩, []⟩

/-- How many regions are open. -/
def depth (s : State) : Nat := s.regions.length

/-- The innermost frame. -/
def top (s : State) : Frame := s.regions.head?.getD s.document

/-- All frames, the document last. -/
def frames (s : State) : List Frame := s.regions ++ [s.document]

/-- The scopes of text at the current place. -/
def scopes (s : State) : List String := s.top.contentScopes

def push (s : State) (f : Frame) : State := { s with regions := f :: s.regions }

/-- Change the innermost frame. -/
def mapTop (s : State) (f : Frame → Frame) : State :=
  match s.regions with
  | [] => { s with document := f s.document }
  | r :: rs => { s with regions := f r :: rs }

/-- Close the innermost region; the document stays. -/
def pop (s : State) : State := { s with regions := s.regions.drop 1 }

/-- Whether a rule was entered at a place of the current line and is still open. -/
def enteredAt (s : State) (rule : RuleRef) (pos : Nat) : Bool :=
  s.frames.any fun f => f.rule == rule && f.entered == some pos

def Frame.forgetPlaces (f : Frame) : Frame := { f with anchor := none, entered := none }

/-- Forget places on the line, so that states of different lines can be equal. -/
def forgetPlaces (s : State) : State :=
  ⟨Frame.forgetPlaces s.document, s.regions.map Frame.forgetPlaces⟩

/-- A frame on a line of its own. -/
def frameText (depth : Nat) (f : Frame) : String :=
  String.ofList (List.replicate (2 * depth) ' ') ++
    "grammar=" ++ toString f.rule.grammar ++ " rule=" ++ toString f.rule.rule ++
    " name=[" ++ ", ".intercalate f.nameScopes ++ "] content=[" ++
    ", ".intercalate f.contentScopes ++ "]" ++
    (match f.ending with
      | some p => " end=" ++ quoted p.source
      | none => "") ++
    (if f.openedAtLineEnd then " eol" else "") ++ "\n"

/-- Frames from the outermost on, each indented by its depth. -/
def framesText : Nat → List Frame → String
  | _, [] => ""
  | depth, f :: fs => frameText depth f ++ framesText (depth + 1) fs

/-- The state in words. -/
def text (s : State) : String := "StateStack:\n" ++ framesText 0 s.frames.reverse

end State

end Scopelight
