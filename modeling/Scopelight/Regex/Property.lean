import Scopelight.Text.Character

/-!
# Named character properties

The properties that a pattern can name: the bracket classes, the general categories and some
scripts. Names are compared without case, blanks, hyphens and underscores.
-/

namespace Scopelight.Regex

open Text

/-- A named set of characters. -/
inductive Property where
  | alnum | alpha | ascii | blank | cntrl | digit | graph | lower | print | punct | space | upper
  | word | xdigit
  | any | assigned
  | letter | uppercaseLetter | lowercaseLetter | titlecaseLetter | modifierLetter | otherLetter
  | mark | nonspacingMark | spacingMark | enclosingMark
  | number | letterNumber | otherNumber
  | punctuation | connector | dash | opening | closing | initialQuote | finalQuote
  | otherPunctuation
  | sign | mathSign | currencySign | modifierSign | otherSign
  | separator | spaceSeparator | lineSeparator | paragraphSeparator
  | other | format | privateUse | unassigned
  | greek | latin | cyrillic | han | hiragana | katakana | arabic | hebrew | hangul
deriving DecidableEq, Repr

namespace Property

/-- The symbols that count as punctuation between brackets. -/
def isAsciiSign (c : Char) : Bool :=
  "$+<=>^\x60|~".toList.contains c

def isGraphic (c : Char) : Bool :=
  !isBlank c && !inAny c [Text.control, Text.unassigned]

/-- Membership. -/
def has : Property → Char → Bool
  | alnum, c => isAlphabetic c || isDecimalDigit c
  | alpha, c => isAlphabetic c
  | ascii, c => c.toNat < 128
  | blank, c => isInlineBlank c
  | cntrl, c => isControl c
  | digit, c => isDecimalDigit c
  | graph, c => isGraphic c
  | lower, c => isLowercase c
  | print, c => isGraphic c || memRuns c.toNat Text.spaceSeparator
  | punct, c => isAsciiSign c || isPunctuation c
  | space, c => isBlank c
  | upper, c => isUppercase c
  | word, c => isWordChar c
  | xdigit, c => isHexDigit c
  | any, _ => true
  | assigned, c => !memRuns c.toNat Text.unassigned
  | letter, c => isLetter c
  | uppercaseLetter, c => memRuns c.toNat Text.uppercaseLetter
  | lowercaseLetter, c => memRuns c.toNat Text.lowercaseLetter
  | titlecaseLetter, c => memRuns c.toNat Text.titlecaseLetter
  | modifierLetter, c => memRuns c.toNat Text.modifierLetter
  | otherLetter, c => memRuns c.toNat Text.otherLetter
  | mark, c => isMark c
  | nonspacingMark, c => memRuns c.toNat Text.nonspacingMark
  | spacingMark, c => memRuns c.toNat Text.spacingMark
  | enclosingMark, c => memRuns c.toNat Text.enclosingMark
  | number, c => inAny c [Text.decimalDigit, Text.letterNumber, Text.otherNumber]
  | letterNumber, c => memRuns c.toNat Text.letterNumber
  | otherNumber, c => memRuns c.toNat Text.otherNumber
  | punctuation, c => isPunctuation c
  | connector, c => memRuns c.toNat Text.connectorPunctuation
  | dash, c => memRuns c.toNat Text.dashPunctuation
  | opening, c => memRuns c.toNat Text.openPunctuation
  | closing, c => memRuns c.toNat Text.closePunctuation
  | initialQuote, c => memRuns c.toNat Text.initialQuote
  | finalQuote, c => memRuns c.toNat Text.finalQuote
  | otherPunctuation, c => memRuns c.toNat Text.otherPunctuation
  | sign, c => isSymbol c
  | mathSign, c => memRuns c.toNat Text.mathSymbol
  | currencySign, c => memRuns c.toNat Text.currencySymbol
  | modifierSign, c => memRuns c.toNat Text.modifierSymbol
  | otherSign, c => memRuns c.toNat Text.otherSymbol
  | separator, c => inAny c [Text.spaceSeparator, Text.lineSeparator, Text.paragraphSeparator]
  | spaceSeparator, c => memRuns c.toNat Text.spaceSeparator
  | lineSeparator, c => memRuns c.toNat Text.lineSeparator
  | paragraphSeparator, c => memRuns c.toNat Text.paragraphSeparator
  | other, c => inAny c [Text.control, Text.format, Text.privateUse, Text.unassigned]
  | format, c => memRuns c.toNat Text.format
  | privateUse, c => memRuns c.toNat Text.privateUse
  | unassigned, c => memRuns c.toNat Text.unassigned
  | greek, c => memRuns c.toNat scriptGreek
  | latin, c => memRuns c.toNat scriptLatin
  | cyrillic, c => memRuns c.toNat scriptCyrillic
  | han, c => memRuns c.toNat scriptHan
  | hiragana, c => memRuns c.toNat scriptHiragana
  | katakana, c => memRuns c.toNat scriptKatakana
  | arabic, c => memRuns c.toNat scriptArabic
  | hebrew, c => memRuns c.toNat scriptHebrew
  | hangul, c => memRuns c.toNat scriptHangul

/-- The classes that can be named between brackets, as in `[:alpha:]`. -/
def bracketNames : List (String × Property) := [
  ("alnum", alnum), ("alpha", alpha), ("blank", blank), ("cntrl", cntrl), ("digit", digit),
  ("graph", graph), ("lower", lower), ("print", print), ("punct", punct), ("space", space),
  ("upper", upper), ("xdigit", xdigit), ("ascii", ascii), ("word", word)]

/-- Further names, as in `\p` followed by a name between braces. -/
def longNames : List (String × Property) := [
  ("any", any), ("assigned", assigned), ("alphabetic", alpha), ("uppercase", upper),
  ("lowercase", lower), ("whitespace", space),
  ("l", letter), ("letter", letter), ("lu", uppercaseLetter),
  ("uppercaseletter", uppercaseLetter), ("ll", lowercaseLetter),
  ("lowercaseletter", lowercaseLetter), ("lt", titlecaseLetter),
  ("titlecaseletter", titlecaseLetter), ("lm", modifierLetter),
  ("modifierletter", modifierLetter), ("lo", otherLetter), ("otherletter", otherLetter),
  ("m", mark), ("mark", mark), ("mn", nonspacingMark), ("nonspacingmark", nonspacingMark),
  ("mc", spacingMark), ("spacingmark", spacingMark), ("me", enclosingMark),
  ("enclosingmark", enclosingMark),
  ("n", number), ("number", number), ("nd", digit), ("decimalnumber", digit),
  ("nl", letterNumber), ("letternumber", letterNumber), ("no", otherNumber),
  ("othernumber", otherNumber),
  ("p", punctuation), ("punctuation", punctuation), ("pc", connector),
  ("connectorpunctuation", connector), ("pd", dash), ("dashpunctuation", dash), ("ps", opening),
  ("openpunctuation", opening), ("pe", closing), ("closepunctuation", closing),
  ("pi", initialQuote), ("initialpunctuation", initialQuote), ("pf", finalQuote),
  ("finalpunctuation", finalQuote), ("po", otherPunctuation),
  ("otherpunctuation", otherPunctuation),
  ("s", sign), ("symbol", sign), ("sm", mathSign), ("mathsymbol", mathSign),
  ("sc", currencySign), ("currencysymbol", currencySign), ("sk", modifierSign),
  ("modifiersymbol", modifierSign), ("so", otherSign), ("othersymbol", otherSign),
  ("z", separator), ("separator", separator), ("zs", spaceSeparator),
  ("spaceseparator", spaceSeparator), ("zl", lineSeparator), ("lineseparator", lineSeparator),
  ("zp", paragraphSeparator), ("paragraphseparator", paragraphSeparator),
  ("c", other), ("other", other), ("cc", cntrl), ("control", cntrl), ("cf", format),
  ("format", format), ("co", privateUse), ("privateuse", privateUse), ("cn", unassigned),
  ("unassigned", unassigned),
  ("greek", greek), ("grek", greek), ("latin", latin), ("latn", latin), ("cyrillic", cyrillic),
  ("cyrl", cyrillic), ("han", han), ("hani", han), ("hiragana", hiragana), ("hira", hiragana),
  ("katakana", katakana), ("kana", katakana), ("arabic", arabic), ("arab", arabic),
  ("hebrew", hebrew), ("hebr", hebrew), ("hangul", hangul), ("hang", hangul)]

/-- A name without case, blanks, hyphens and underscores. -/
def plainName (cs : List Char) : String :=
  String.ofList ((cs.filter fun c => c != ' ' && c != '-' && c != '_').map Char.toLower)

/-- The property of a name. -/
def ofName? (cs : List Char) : Option Property :=
  (bracketNames ++ longNames).lookup (plainName cs)

end Property

end Scopelight.Regex
