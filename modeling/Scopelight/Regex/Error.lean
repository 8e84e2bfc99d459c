/-!
# Why a pattern is refused
-/

namespace Scopelight.Regex

inductive Error where
  | unclosedGroup
  | unopenedGroup
  | unclosedClass
  | emptyClass
  | nothingToRepeat
  | endsInEscape
  | emptyRange
  | unknownProperty (name : String)
  | badBackreference
  | undefinedName (name : String)
  | undefinedGroup (name : String)
  | ambiguousCall (name : String)
  | badGroupName (name : String)
  | badGroupNameChar (name : String)
  | emptyGroupName
  | unknownOption
  | endsInGroup
  | unknownBracketClass
  | repeatTooLarge
  | badLookbehind
  | classEndsRange
  | tooFewDigits
  | numberTooLarge
  | charTooLarge
  | tooFewBytes
  | invalidChar
  | endsInControl
  | badControl
  | endsInMeta
  | badMeta
  /-- Several code points between braces are not read. -/
  | codeSequence
  /-- Escapes for grapheme clusters are not read. -/
  | textSegment
  | nestingTooDeep
deriving DecidableEq, Repr

/-- The wording of an error. -/
def Error.message : Error → String
  | unclosedGroup => "end pattern with unmatched parenthesis"
  | unopenedGroup => "unmatched close parenthesis"
  | unclosedClass => "premature end of char-class"
  | emptyClass => "empty char-class"
  | nothingToRepeat => "target of repeat operator is not specified"
  | endsInEscape => "end pattern at escape"
  | emptyRange => "empty range in char class"
  | unknownProperty name => "invalid character property name \x7b" ++ name ++ "\x7d"
  | badBackreference => "invalid backref number/name"
  | undefinedName name => "undefined name <" ++ name ++ "> reference"
  | undefinedGroup name => "undefined group <" ++ name ++ "> reference"
  | ambiguousCall name => "multiplex definition name <" ++ name ++ "> call"
  | badGroupName name => "invalid group name <" ++ name ++ ">"
  | badGroupNameChar name => "invalid char in group name <" ++ name ++ ">"
  | emptyGroupName => "group name is empty"
  | unknownOption => "undefined group option"
  | endsInGroup => "end pattern in group"
  | unknownBracketClass => "invalid POSIX bracket type"
  | repeatTooLarge => "too big number for repeat range"
  | badLookbehind => "invalid pattern in look-behind"
  | classEndsRange => "char-class value at end of range"
  | tooFewDigits => "too short digits"
  | numberTooLarge => "too big number"
  | charTooLarge => "too big wide-char value"
  | tooFewBytes => "too short multibyte string"
  | invalidChar => "invalid code point value"
  | endsInControl => "end pattern at control"
  | badControl => "invalid control-code syntax"
  | endsInMeta => "end pattern at meta"
  | badMeta => "invalid meta-code syntax"
  | codeSequence => "code point sequences are not supported"
  | textSegment => "text segments are not supported"
  | nestingTooDeep => "parse depth limit over"

end Scopelight.Regex
