import Scopelight.Text.Quoted

/-!
# Writing JSON

Values that are written, on one line or indented by two blanks.
-/

namespace Scopelight.Json

open Text

inductive Value where
  | bool (b : Bool)
  | number (n : Nat)
  | string (s : String)
  | array (items : List Value)
  | object (members : List (String × Value))

/-- A character of a string. Controls have a short escape or four hexadecimal digits. -/
def writeChar (c : Char) : List Char :=
  if c = '"' then ['\\', '"']
  else if c = '\\' then ['\\', '\\']
  else if c = '\n' then ['\\', 'n']
  else if c = '\r' then ['\\', 'r']
  else if c = '\t' then ['\\', 't']
  else if c = '\x08' then ['\\', 'b']
  else if c = '\x0c' then ['\\', 'f']
  else if c.toNat < 0x20 then
    ['\\', 'u', '0', '0', Nat.digitChar (c.toNat / 16), Nat.digitChar (c.toNat % 16)]
  else [c]

def writeString (s : String) : List Char :=
  '"' :: s.toList.flatMap writeChar ++ ['"']

def writeBool (b : Bool) : List Char := if b then "true".toList else "false".toList

mutual

/-- A value on one line. -/
def Value.compact : Value → List Char
  | .bool b => writeBool b
  | .number n => Nat.toDigits 10 n
  | .string s => writeString s
  | .array [] => ['[', ']']
  | .array (v :: vs) => '[' :: v.compact ++ compactItems vs
  | .object [] => ['\x7b', '\x7d']
  | .object ((k, v) :: ms) => '\x7b' :: writeString k ++ ':' :: v.compact ++ compactMembers ms

/-- The items after the first, and the closing bracket. -/
def compactItems : List Value → List Char
  | [] => [']']
  | v :: vs => ',' :: v.compact ++ compactItems vs

/-- The members after the first, and the closing brace. -/
def compactMembers : List (String × Value) → List Char
  | [] => ['\x7d']
  | (k, v) :: ms => ',' :: writeString k ++ ':' :: v.compact ++ compactMembers ms

end

/-- A line break and the indentation of a level. -/
def newLine (level : Nat) : List Char := '\n' :: List.replicate (2 * level) ' '

mutual

/-- A value with one item or member a line, at a level of indentation. -/
def Value.pretty (level : Nat) : Value → List Char
  | .bool b => writeBool b
  | .number n => Nat.toDigits 10 n
  | .string s => writeString s
  | .array [] => ['[', ']']
  | .array (v :: vs) =>
    '[' :: newLine (level + 1) ++ v.pretty (level + 1) ++ prettyItems level vs
  | .object [] => ['\x7b', '\x7d']
  | .object ((k, v) :: ms) =>
    '\x7b' :: newLine (level + 1) ++ writeString k ++ [':', ' '] ++ v.pretty (level + 1) ++
      prettyMembers level ms

def prettyItems (level : Nat) : List Value → List Char
  | [] => newLine level ++ [']']
  | v :: vs => ',' :: newLine (level + 1) ++ v.pretty (level + 1) ++ prettyItems level vs

def prettyMembers (level : Nat) : List (String × Value) → List Char
  | [] => newLine level ++ ['\x7d']
  | (k, v) :: ms =>
    ',' :: newLine (level + 1) ++ writeString k ++ [':', ' '] ++ v.pretty (level + 1) ++
      prettyMembers level ms

end

/-- A list of strings. -/
def Value.strings (ss : List String) : Value := .array (ss.map .string)

end Scopelight.Json
