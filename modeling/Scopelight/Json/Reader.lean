import Scopelight.Text.Character
import Scopelight.Text.Offset

/-!
# Reading JSON

Readers of typed values, over the characters that are left. A text is read once from left to right,
so of several faults the first one counts. Values that are asked for are read strictly; those of
unknown keys are only skipped, and may then hold unpaired surrogates, numbers out of range and any
depth of nesting. The number of arrays and objects that may still be opened is called the room.
-/

namespace Scopelight.Json

open Text

/-- What is wrong with a text. -/
inductive Fault where
  /-- It ends too early. -/
  | ended
  /-- It is not JSON. -/
  | malformed
  /-- A value has the wrong type, is out of range, missing or repeated. -/
  | mistyped
deriving DecidableEq, Repr

/-- Reads a value and returns what is left. -/
abbrev Read (α : Type) := List Char → Except Fault (α × List Char)

/-- Arrays and objects that may be open at a time. -/
def maxDepth : Nat := 127

def isSpace (c : Char) : Bool :=
  c == ' ' || c == '\n' || c == '\t' || c == '\r'

def skipSpace (cs : List Char) : List Char := cs.dropWhile isSpace

/-- The rest of a literal name. -/
def expect : List Char → List Char → Except Fault (List Char)
  | [], cs => .ok cs
  | _ :: _, [] => .error .ended
  | a :: as, c :: cs => if a = c then expect as cs else .error .malformed

/-! ## Strings -/

/-- Four hexadecimal digits. Too few bytes for them count as an early end. -/
def hexUnit (cs : List Char) : Except Fault (Nat × List Char) :=
  let ds := cs.take 4
  if ds.length = 4 ∧ ds.all isHexDigit then .ok (digitsValue 16 ds, cs.drop 4)
  else if byteLength ds < 4 then .error .ended
  else .error .malformed

/-- The characters that a one-letter escape can name. -/
def escapeNames : List (Char × Char) := [
  ('"', '"'), ('\\', '\\'), ('/', '/'), ('b', '\x08'), ('f', '\x0c'), ('n', '\n'), ('r', '\r'),
  ('t', '\t')]

/-- The second half of a surrogate pair. -/
def trailingUnit (high : Nat) : List Char → Except Fault (Char × List Char)
  | '\\' :: 'u' :: cs => do
    let (low, rest) ← hexUnit cs
    if 0xdc00 ≤ low ∧ low ≤ 0xdfff then
      return (Char.ofNat ((high - 0xd800) * 0x400 + (low - 0xdc00) + 0x10000), rest)
    else throw .malformed
  | [] | ['\\'] => .error .ended
  | _ => .error .malformed

/-- A character after `\u`; surrogates must come in pairs. -/
def unicodeEscape (cs : List Char) : Except Fault (Char × List Char) := do
  let (n, rest) ← hexUnit cs
  if 0xdc00 ≤ n ∧ n ≤ 0xdfff then throw .malformed
  else if 0xd800 ≤ n ∧ n ≤ 0xdbff then trailingUnit n rest
  else return (Char.ofNat n, rest)

def escaped : List Char → Except Fault (Char × List Char)
  | [] => .error .ended
  | 'u' :: cs => unicodeEscape cs
  | c :: cs =>
    match escapeNames.lookup c with
    | some d => .ok (d, cs)
    | none => .error .malformed

/-- The rest of a string after its opening quote; the number bounds its length. -/
def stringBody : Nat → Read (List Char)
  | 0, _ => .error .ended
  | _, [] => .error .ended
  | _ + 1, '"' :: cs => .ok ([], cs)
  | fuel + 1, '\\' :: cs => do
    let (c, rest) ← escaped cs
    let (s, rest) ← stringBody fuel rest
    return (c :: s, rest)
  | fuel + 1, c :: cs =>
    if c.toNat < 0x20 then .error .malformed
    else do
      let (s, rest) ← stringBody fuel cs
      return (c :: s, rest)

def afterQuote (cs : List Char) : Except Fault (String × List Char) := do
  let (s, rest) ← stringBody (cs.length + 1) cs
  return (String.ofList s, rest)

/-- Skip the rest of a string; surrogates need no partner. -/
def skipString : Nat → List Char → Except Fault (List Char)
  | 0, _ => .error .ended
  | _, [] => .error .ended
  | _ + 1, '"' :: cs => .ok cs
  | _ + 1, ['\\'] => .error .ended
  | fuel + 1, '\\' :: 'u' :: cs => do
    let (_, rest) ← hexUnit cs
    skipString fuel rest
  | fuel + 1, '\\' :: c :: cs =>
    if (escapeNames.lookup c).isSome then skipString fuel cs else .error .malformed
  | fuel + 1, c :: cs => if c.toNat < 0x20 then .error .malformed else skipString fuel cs

/-! ## Numbers -/

/-- A number: an integer, or one with a fraction or an exponent. Negative zero is no integer. -/
inductive Number where
  | int (n : Int)
  | real
deriving DecidableEq, Repr

/-- Whether `digits · 10 ^ exponent` is too large for a double. -/
def overflows (digits : Nat) (exponent : Int) : Bool :=
  if digits = 0 then false
  else
    let size := (Nat.toDigits 10 digits).length + exponent
    if size > 310 then true
    else if size < 300 then false
    else
      let limit := Nat.pow 2 1024 - Nat.pow 2 970
      if exponent ≥ 0 then digits * Nat.pow 10 exponent.toNat ≥ limit
      else digits ≥ limit * Nat.pow 10 (-exponent).toNat

/-- The digits of an exponent; `atEnd` is the fault if there are none left. -/
def exponentDigits (atEnd : Fault) (cs : List Char) : Except Fault (Nat × List Char) :=
  match cs with
  | [] => .error atEnd
  | c :: _ =>
    if isAsciiDigit c then .ok (digitsValue 10 (cs.takeWhile isAsciiDigit), cs.dropWhile isAsciiDigit)
    else .error .malformed

/-- An exponent after its letter. -/
def exponent (atEnd : Fault) : List Char → Except Fault (Int × List Char)
  | '-' :: cs => do
    let (n, rest) ← exponentDigits atEnd cs
    return (-(n : Int), rest)
  | '+' :: cs => do
    let (n, rest) ← exponentDigits atEnd cs
    return ((n : Int), rest)
  | cs => do
    let (n, rest) ← exponentDigits atEnd cs
    return ((n : Int), rest)

/-- An exponent if there is one. -/
def exponent? (atEnd : Fault) : List Char → Except Fault (Option Int × List Char)
  | 'e' :: cs | 'E' :: cs => do
    let (e, rest) ← exponent atEnd cs
    return (some e, rest)
  | cs => .ok (none, cs)

/-- The digits after a point. -/
def fraction (atEnd : Fault) (cs : List Char) : Except Fault (List Char × List Char) :=
  match cs with
  | [] => .error atEnd
  | c :: _ =>
    if isAsciiDigit c then .ok (cs.takeWhile isAsciiDigit, cs.dropWhile isAsciiDigit)
    else .error .malformed

/-- The digits before a point: zero alone, or digits that do not begin with zero. -/
def integerDigits (atEnd : Fault) (cs : List Char) : Except Fault (List Char × List Char) :=
  match cs with
  | [] => .error atEnd
  | '0' :: rest =>
    match rest with
    | c :: _ => if isAsciiDigit c then .error .malformed else .ok (['0'], rest)
    | [] => .ok (['0'], [])
  | c :: _ =>
    if isAsciiDigit c then .ok (cs.takeWhile isAsciiDigit, cs.dropWhile isAsciiDigit)
    else .error .malformed

/-- A number after its sign, with its digits and the power of ten of the last one. -/
structure Decimal where
  digits : List Char
  power : Int
  isInteger : Bool

def decimal (atEnd : Fault) (cs : List Char) : Except Fault (Decimal × List Char) := do
  let (whole, rest) ← integerDigits atEnd cs
  match rest with
  | '.' :: rest => do
    let (places, rest) ← fraction atEnd rest
    let (e, rest) ← exponent? atEnd rest
    return (⟨whole ++ places, e.getD 0 - places.length, false⟩, rest)
  | rest => do
    let (e, rest) ← exponent? atEnd rest
    return (⟨whole, e.getD 0, e.isNone⟩, rest)

/-- A number that is asked for. -/
def number (negative : Bool) : Read Number := fun cs => do
  let (d, rest) ← decimal .ended cs
  let n := digitsValue 10 d.digits
  if overflows n d.power then throw .malformed
  if d.isInteger && !(negative && n == 0) then
    return (.int (if negative then -n else n), rest)
  return (.real, rest)

/-! ## Values of the wrong type -/

/-- The fault of a value that is not of the type asked for. Names, numbers and strings are read
first, so their own faults come before that of the type. -/
def mismatch (cs : List Char) : Fault :=
  let typed {α : Type} : Except Fault α → Fault
    | .ok _ => .mistyped
    | .error f => f
  match cs with
  | [] => .malformed
  | 'n' :: cs => typed (expect "ull".toList cs)
  | 't' :: cs => typed (expect "rue".toList cs)
  | 'f' :: cs => typed (expect "alse".toList cs)
  | '-' :: cs => typed (number true cs)
  | '"' :: cs => typed (afterQuote cs)
  | '[' :: _ | '\x7b' :: _ => .mistyped
  | c :: _ => if isAsciiDigit c then typed (number false cs) else .malformed

/-! ## Skipping -/

/-- The brackets that a skipped value may have open. -/
inductive Bracket where
  | array | object
deriving DecidableEq, Repr

/-- A skipped value that is no array or object. -/
def skipScalar : List Char → Except Fault (List Char)
  | [] => .error .ended
  | 'n' :: cs => expect "ull".toList cs
  | 't' :: cs => expect "rue".toList cs
  | 'f' :: cs => expect "alse".toList cs
  | '-' :: cs => do return (← decimal .malformed cs).2
  | '"' :: cs => skipString (cs.length + 1) cs
  | c :: cs =>
    if isAsciiDigit c then do return (← decimal .malformed (c :: cs)).2 else .error .malformed

/-- A key of a skipped object and its colon. -/
def skipKey (cs : List Char) : Except Fault (List Char) :=
  match skipSpace cs with
  | [] => .error .ended
  | '"' :: cs => do
    match skipSpace (← skipString (cs.length + 1) cs) with
    | [] => throw .ended
    | ':' :: rest => return rest
    | _ => throw .malformed
  | _ => .error .malformed

/-- The place where a further skipped value begins. -/
def skipToValue (inside : Bracket) (cs : List Char) : Except Fault (List Char) :=
  match inside with
  | .array => .ok cs
  | .object => skipKey cs

/-- What comes before a skipped value or after one. -/
inductive SkipPoint where
  | value
  | afterOpen
  | afterValue
deriving DecidableEq, Repr

/-- Skip a value at any depth, keeping the open brackets; the number bounds the steps. -/
def skipFrom : Nat → SkipPoint → List Bracket → List Char → Except Fault (List Char)
  | 0, _, _, _ => .error .ended
  | fuel + 1, .value, inside, cs =>
    match skipSpace cs with
    | '[' :: rest => skipFrom fuel .afterOpen (.array :: inside) rest
    | '\x7b' :: rest => skipFrom fuel .afterOpen (.object :: inside) rest
    | cs => do skipFrom fuel .afterValue inside (← skipScalar cs)
  | _ + 1, _, [], cs => .ok cs
  | fuel + 1, point, b :: inside, cs =>
    match skipSpace cs, b with
    | [], _ => .error .ended
    | ']' :: rest, .array => skipFrom fuel .afterValue inside rest
    | '\x7d' :: rest, .object => skipFrom fuel .afterValue inside rest
    | c :: rest, b =>
      if point = .afterOpen then do
        skipFrom fuel .value (b :: inside) (← skipToValue b (c :: rest))
      else if c = ',' then do skipFrom fuel .value (b :: inside) (← skipToValue b rest)
      else .error .malformed

def skipValue (cs : List Char) : Except Fault (List Char) :=
  skipFrom (2 * cs.length + 2) .value [] cs

/-! ## Arrays and objects -/

/-- The place where the next element of an array begins; none at its closing bracket. -/
def nextElement (first : Bool) (cs : List Char) : Except Fault (Option (List Char)) :=
  match skipSpace cs with
  | [] => .error .ended
  | ']' :: _ => .ok none
  | c :: rest =>
    if first then .ok (some (c :: rest))
    else if c = ',' then
      match skipSpace rest with
      | [] => .error .ended
      | ']' :: _ => .error .malformed
      | rest => .ok (some rest)
    else .error .malformed

/-- The closing bracket after the last element that was asked for. -/
def closeArray (cs : List Char) : Except Fault (List Char) :=
  match skipSpace cs with
  | [] => .error .ended
  | ']' :: rest => .ok rest
  | _ => .error .malformed

/-- The place where the next key of an object begins, after its quote; none at its closing brace. -/
def nextKey (first : Bool) (cs : List Char) : Except Fault (Option (List Char)) :=
  match skipSpace cs with
  | [] => .error .ended
  | '\x7d' :: _ => .ok none
  | c :: rest =>
    if first then
      if c = '"' then .ok (some rest) else .error .malformed
    else if c = ',' then
      match skipSpace rest with
      | [] => .error .ended
      | '"' :: rest => .ok (some rest)
      | _ => .error .malformed
    else .error .malformed

def closeObject (cs : List Char) : Except Fault (List Char) :=
  match skipSpace cs with
  | [] => .error .ended
  | '\x7d' :: rest => .ok rest
  | _ => .error .malformed

/-- The colon after a key. -/
def colon (cs : List Char) : Except Fault (List Char) :=
  match skipSpace cs with
  | [] => .error .ended
  | ':' :: rest => .ok rest
  | _ => .error .malformed

/-- Elements up to the closing bracket; the number bounds how many. -/
def elements {α : Type} (item : Read α) : Nat → Bool → Read (List α)
  | 0, _, _ => .error .ended
  | fuel + 1, first, cs => do
    match ← nextElement first cs with
    | none => return ([], ← closeArray cs)
    | some cs =>
      let (a, rest) ← item cs
      let (as, rest) ← elements item fuel false rest
      return (a :: as, rest)

/-- Keys and values up to the closing brace; the number bounds how many. -/
def members {α : Type} (value : Read α) : Nat → Bool → Read (List (String × α))
  | 0, _, _ => .error .ended
  | fuel + 1, first, cs => do
    match ← nextKey first cs with
    | none => return ([], ← closeObject cs)
    | some cs =>
      let (key, rest) ← afterQuote cs
      let (a, rest) ← value (← colon rest)
      let (as, rest) ← members value fuel false rest
      return ((key, a) :: as, rest)

def string : Read String := fun cs =>
  match skipSpace cs with
  | [] => .error .ended
  | '"' :: rest => afterQuote rest
  | cs => .error (mismatch cs)

/-- A value or `null`. -/
def optional {α : Type} (value : Read α) : Read (Option α) := fun cs =>
  match skipSpace cs with
  | 'n' :: rest => do return (none, ← expect "ull".toList rest)
  | cs => do
    let (a, rest) ← value cs
    return (some a, rest)

def list {α : Type} (room : Nat) (item : Nat → Read α) : Read (List α) := fun cs =>
  match skipSpace cs, room with
  | [], _ => .error .ended
  | '[' :: _, 0 => .error .malformed
  | '[' :: rest, room + 1 => elements (item room) (rest.length + 1) true rest
  | cs, _ => .error (mismatch cs)

/-- Put a key into a list sorted by keys; a key that is there takes the new value. -/
def insertKey {α : Type} (key : String) (a : α) : List (String × α) → List (String × α)
  | [] => [(key, a)]
  | (k, b) :: rest =>
    if key < k then (key, a) :: (k, b) :: rest
    else if key = k then (key, a) :: rest
    else (k, b) :: insertKey key a rest

/-- Keys in order; of equal ones the last counts. -/
def sortKeys {α : Type} (ms : List (String × α)) : List (String × α) :=
  ms.foldl (fun sorted (k, a) => insertKey k a sorted) []

def map {α : Type} (room : Nat) (value : Nat → Read α) : Read (List (String × α)) := fun cs =>
  match skipSpace cs, room with
  | [], _ => .error .ended
  | '\x7b' :: _, 0 => .error .malformed
  | '\x7b' :: rest, room + 1 => do
    let (ms, rest) ← members (value room) (rest.length + 1) true rest
    return (sortKeys ms, rest)
  | cs, _ => .error (mismatch cs)

/-! ## Records -/

/-- A field of a record: how to read it into the record. -/
structure FieldReader (σ : Type) where
  key : String
  isRequired : Bool
  read : Read (σ → σ)

/-- A field by the reader of its value and the update it makes. -/
def FieldReader.of {σ α : Type} (key : String) (read : Read α) (set : α → σ → σ) : FieldReader σ :=
  ⟨key, false, fun cs => do
    let (a, rest) ← read cs
    return (set a, rest)⟩

def FieldReader.required {σ : Type} (f : FieldReader σ) : FieldReader σ :=
  { f with isRequired := true }

/-- Whether every required field is among the keys that were seen. -/
def complete {σ : Type} (fields : List (FieldReader σ)) (seen : List String) : Bool :=
  fields.all fun f => !f.isRequired || seen.contains f.key

/-- A record written as an object: known keys at most once, unknown ones skipped. -/
def recordMembers {σ : Type} (fields : List (FieldReader σ)) :
    Nat → Bool → List String → σ → Read σ
  | 0, _, _, _, _ => .error .ended
  | fuel + 1, first, seen, acc, cs => do
    match ← nextKey first cs with
    | none => if complete fields seen then return (acc, ← closeObject cs) else throw .mistyped
    | some cs =>
      let (key, rest) ← afterQuote cs
      match fields.find? (·.key == key) with
      | none => recordMembers fields fuel false seen acc (← skipValue (← colon rest))
      | some f =>
        if seen.contains key then throw .mistyped
        let (set, rest) ← f.read (← colon rest)
        recordMembers fields fuel false (key :: seen) (set acc) rest

/-- A record written as an array of its fields in order; fields at the end may be missing. -/
def recordElements {σ : Type} : List (FieldReader σ) → Bool → σ → Read σ
  | [], _, acc, cs => do return (acc, ← closeArray cs)
  | f :: fs, first, acc, cs => do
    match ← nextElement first cs with
    | none => if (f :: fs).any (·.isRequired) then throw .mistyped else return (acc, ← closeArray cs)
    | some cs =>
      let (set, rest) ← f.read cs
      recordElements fs false (set acc) rest

/-- A record; `fields` are read with the room that is left inside it. -/
def record {σ : Type} (room : Nat) (fields : Nat → List (FieldReader σ)) (initial : σ) : Read σ :=
  fun cs =>
    match skipSpace cs, room with
    | [], _ => .error .ended
    | '[' :: _, 0 | '\x7b' :: _, 0 => .error .malformed
    | '[' :: rest, room + 1 => recordElements (fields room) true initial rest
    | '\x7b' :: rest, room + 1 =>
      recordMembers (fields room) (rest.length + 1) true [] initial rest
    | cs, _ => .error (mismatch cs)

/-! ## Values of any type -/

/-- What matters of a value whose type is found out only by reading it. -/
inductive AnyValue where
  | bool (b : Bool)
  | number (n : Number)
  | other
deriving DecidableEq, Repr

/-- A value of any type, read strictly. -/
def anyValue : Nat → Read AnyValue
  | room, cs =>
    match skipSpace cs, room with
    | [], _ => .error .ended
    | 'n' :: rest, _ => do return (.other, ← expect "ull".toList rest)
    | 't' :: rest, _ => do return (.bool true, ← expect "rue".toList rest)
    | 'f' :: rest, _ => do return (.bool false, ← expect "alse".toList rest)
    | '-' :: rest, _ => do
      let (n, rest) ← number true rest
      return (.number n, rest)
    | '"' :: rest, _ => do
      let (_, rest) ← afterQuote rest
      return (.other, rest)
    | '[' :: _, 0 | '\x7b' :: _, 0 => .error .malformed
    | '[' :: rest, room + 1 => do
      let (_, rest) ← elements (anyValue room) (rest.length + 1) true rest
      return (.other, rest)
    | '\x7b' :: rest, room + 1 => do
      let (_, rest) ← members (anyValue room) (rest.length + 1) true rest
      return (.other, rest)
    | c :: rest, _ =>
      if isAsciiDigit c then do
        let (n, rest) ← number false (c :: rest)
        return (.number n, rest)
      else .error .malformed

/-- A truth value, or a 64-bit integer that is true unless zero. -/
def boolOrInt (room : Nat) : Read Bool := fun cs => do
  match ← anyValue room cs with
  | (.bool b, rest) => return (b, rest)
  | (.number (.int n), rest) =>
    if fitsSignedWord n then return (n != 0, rest) else throw .mistyped
  | _ => throw .mistyped

/-- An integer from zero to the largest of 64 bits. -/
def word64 : Read Nat := fun cs =>
  let check : Number × List Char → Except Fault (Nat × List Char)
    | (.int n, rest) => if fitsWord n then .ok (n.toNat, rest) else .error .mistyped
    | (.real, _) => .error .mistyped
  match skipSpace cs with
  | [] => .error .ended
  | '-' :: rest => do check (← number true rest)
  | c :: rest =>
    if isAsciiDigit c then do check (← number false (c :: rest)) else .error (mismatch (c :: rest))

/-- One of several names, as a string or as an object that maps the name to `null`. -/
def oneOf {α : Type} (room : Nat) (names : List (String × α)) : Read α := fun cs =>
  let choose (name : String) : Except Fault α :=
    match names.lookup name with
    | some a => .ok a
    | none => .error .mistyped
  match skipSpace cs, room with
  | [], _ => .error .ended
  | '"' :: rest, _ => do
    let (name, rest) ← afterQuote rest
    return (← choose name, rest)
  | '\x7b' :: _, 0 => .error .malformed
  | '\x7b' :: rest, _ + 1 => do
    let (name, rest) ← string rest
    let a ← choose name
    match skipSpace (← colon rest) with
    | [] => throw .ended
    | 'n' :: rest => return (a, ← closeObject (← expect "ull".toList rest))
    | cs => throw (mismatch cs)
  | _, _ => .error .malformed

/-- A whole text that holds one value. -/
def wholeText {α : Type} (read : Read α) (text : String) : Except Fault α := do
  let (a, rest) ← read text.toList
  if (skipSpace rest).isEmpty then return a else throw .malformed

end Scopelight.Json
