import Scopelight.Text.Category.Letter
import Scopelight.Text.Category.Mark
import Scopelight.Text.Category.Number
import Scopelight.Text.Category.Punctuation
import Scopelight.Text.Category.Sign
import Scopelight.Text.Category.Invisible
import Scopelight.Text.Category.Extra
import Scopelight.Text.Numeral

/-!
# Classes of characters

The predicates that patterns, names and printed text ask of a character.
-/

namespace Scopelight.Text

/-- Membership in one of several properties. -/
def inAny (c : Char) (tables : List (List Run)) : Bool :=
  tables.any (memRuns c.toNat)

def isLetter (c : Char) : Bool :=
  inAny c [lowercaseLetter, uppercaseLetter, titlecaseLetter, modifierLetter, otherLetter]

def isMark (c : Char) : Bool :=
  inAny c [nonspacingMark, spacingMark, enclosingMark]

def isDecimalDigit (c : Char) : Bool :=
  memRuns c.toNat decimalDigit

def isAlphabetic (c : Char) : Bool :=
  isLetter c || inAny c [letterNumber, otherAlphabetic]

def isUppercase (c : Char) : Bool :=
  inAny c [uppercaseLetter, otherUppercase]

def isLowercase (c : Char) : Bool :=
  inAny c [lowercaseLetter, otherLowercase]

def isPunctuation (c : Char) : Bool :=
  inAny c [otherPunctuation, openPunctuation, closePunctuation, dashPunctuation,
    connectorPunctuation, initialQuote, finalQuote]

def isSymbol (c : Char) : Bool :=
  inAny c [mathSymbol, currencySymbol, modifierSymbol, otherSymbol]

def isControl (c : Char) : Bool :=
  memRuns c.toNat control

/-- What a word is made of: alphabetic characters, marks, digits and connectors. -/
def isWordChar (c : Char) : Bool :=
  isAlphabetic c || isDecimalDigit c || memRuns c.toNat connectorPunctuation || isMark c

/-- White space, line breaks included. -/
def isBlank (c : Char) : Bool :=
  (0x09 ≤ c.toNat && c.toNat ≤ 0x0d) || c == ' ' || c.toNat == 0x85 ||
    inAny c [spaceSeparator, lineSeparator, paragraphSeparator]

/-- White space within a line. -/
def isInlineBlank (c : Char) : Bool :=
  c == '\t' || memRuns c.toNat spaceSeparator

/-- Leaves no ink, or none by itself: controls, formats, every space but the plain one, private and
unassigned code points. -/
def isInvisible (c : Char) : Bool :=
  c != ' ' && inAny c [control, format, spaceSeparator, lineSeparator, paragraphSeparator,
    privateUse, unassigned]

/-- Joins the character before it. -/
def extendsGrapheme (c : Char) : Bool :=
  inAny c [nonspacingMark, enclosingMark, otherGraphemeExtend]

end Scopelight.Text
