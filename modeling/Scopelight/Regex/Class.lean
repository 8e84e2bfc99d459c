import Scopelight.Regex.CharSet
import Scopelight.Regex.Error

/-!
# Reading bracketed classes

A class is read token by token. A value waits until it is known whether a range starts there, and
operands of `&&` are intersected as they end.
-/

namespace Scopelight.Regex

open Text

/-- Up to `most` digits of a base at the head of a text. -/
def takeDigits (isDigit : Char → Bool) : Nat → List Char → List Char × List Char
  | 0, cs => ([], cs)
  | _, [] => ([], [])
  | most + 1, c :: cs =>
    if isDigit c then
      let (ds, rest) := takeDigits isDigit most cs
      (c :: ds, rest)
    else ([], c :: cs)

def isOctalDigit (c : Char) : Bool := '0' ≤ c && c ≤ '7'

/-- The character of a code point, if it is one. -/
def charOfCode (n : Nat) : Except Error Char :=
  if n > 0x10ffff then .error .charTooLarge
  else if 0xd800 ≤ n && n ≤ 0xdfff then .error .invalidChar
  else .ok (Char.ofNat n)

/-- How many bytes a character takes whose first byte this is. -/
def encodedLength (lead : Nat) : Nat :=
  if lead < 0xc2 then 1 else if lead < 0xe0 then 2 else if lead < 0xf0 then 3
  else if lead < 0xf5 then 4 else 1

/-- An escaped byte, `\xHH` or `\ooo`. -/
def takeByte : List Char → Option (Nat × List Char)
  | '\\' :: 'x' :: cs =>
    let (ds, rest) := takeDigits isHexDigit 2 cs
    some (digitsValue 16 ds, rest)
  | '\\' :: c :: cs =>
    if isOctalDigit c then
      let (ds, rest) := takeDigits isOctalDigit 3 (c :: cs)
      some (digitsValue 8 ds, rest)
    else none
  | _ => none

/-- The bytes that continue a character, each escaped. -/
def takeBytes : Nat → List Char → Except Error (List Nat × List Char)
  | 0, cs => .ok ([], cs)
  | n + 1, cs =>
    match takeByte cs with
    | none => .error .tooFewBytes
    | some (b, rest) => do
      let (bs, rest) ← takeBytes n rest
      return (b :: bs, rest)

/-- The code point that continuation bytes complete. -/
def joinBytes (start : Nat) (bs : List Nat) : Nat :=
  bs.foldl (fun n b => n * 64 + b % 64) start

/-- How many values the first of so many bytes can hold. -/
def leadValues : Nat → Nat
  | 2 => 0x20
  | 3 => 0x10
  | 4 => 0x08
  | _ => 0x40

/-- The character whose first byte is given as a number and whose others follow as escapes. -/
def takeEncoded (lead : Nat) (cs : List Char) : Except Error (Char × List Char) := do
  if lead < 0x80 then return (Char.ofNat lead, cs)
  let length := encodedLength lead
  let (bs, rest) ← takeBytes (length - 1) cs
  let code := joinBytes (lead % leadValues length) bs
  if length = 1 || bs.any (fun b => b < 0x80 || 0xbf < b) || (length = 3 && code < 0x800) ||
      (length = 4 && code < 0x10000) || code > 0x10ffff || (0xd800 ≤ code && code ≤ 0xdfff) then
    throw .invalidChar
  return (Char.ofNat code, rest)

/-- A code point in hexadecimal or octal between braces, the opening one already read. -/
def takeBraced (base most : Nat) (cs : List Char) : Except Error (Option (Char × List Char)) := do
  let (ds, rest) := takeDigits (if base = 8 then isOctalDigit else isHexDigit) most cs
  match ds, rest with
  | _ :: _, '\x7d' :: rest => return some (← charOfCode (digitsValue base ds), rest)
  | _ :: _, ' ' :: _ | _ :: _, '\n' :: _ => throw .codeSequence
  | _, _ => return none

/-- What a letter names behind a backslash; any other character stands for itself. -/
def namedChar : Char → Char
  | 'n' => '\n'
  | 't' => '\t'
  | 'r' => '\r'
  | 'f' => '\x0c'
  | 'a' => '\x07'
  | 'b' => '\x08'
  | 'e' => '\x1b'
  | 'v' => '\x0b'
  | c => c

/-- The control character of a character. -/
def controlChar (c : Char) : Char := Char.ofNat (c.toNat &&& 0x9f)

/-- The character with its eighth bit set. -/
def metaChar (c : Char) : Char := Char.ofNat (c.toNat &&& 0xff ||| 0x80)

/-- What an escaped character stands for when it has no meaning of its own here. Control and meta
marks may stand before an escape again. -/
def escapedChar : Char → List Char → Except Error (Char × List Char)
  | 'c', [] | 'C', [] | 'C', ['-'] => .error .endsInControl
  | 'M', [] | 'M', ['-'] => .error .endsInMeta
  | 'c', ['\\'] | 'C', ['-', '\\'] | 'M', ['-', '\\'] => .error .endsInEscape
  | 'c', '\\' :: c :: cs | 'C', '-' :: '\\' :: c :: cs => do
    let (c, rest) ← escapedChar c cs
    return (controlChar c, rest)
  | 'M', '-' :: '\\' :: c :: cs => do
    let (c, rest) ← escapedChar c cs
    return (metaChar c, rest)
  | 'c', '?' :: cs | 'C', '-' :: '?' :: cs => .ok ('\x7f', cs)
  | 'c', c :: cs | 'C', '-' :: c :: cs => .ok (controlChar c, cs)
  | 'M', '-' :: c :: cs => .ok (metaChar c, cs)
  | 'C', _ => .error .badControl
  | 'M', _ => .error .badMeta
  | c, cs => .ok (namedChar c, cs)

/-- The classes that a letter names. -/
def letterClass : Char → Option CharSet
  | 'w' => some (.property .word)
  | 'W' => some (.compl (.property .word))
  | 'd' => some (.property .digit)
  | 'D' => some (.compl (.property .digit))
  | 's' => some (.property .space)
  | 'S' => some (.compl (.property .space))
  | 'h' => some (.property .xdigit)
  | 'H' => some (.compl (.property .xdigit))
  | _ => none

/-- A property name up to its closing brace. -/
def takePropertyName : List Char → Except (List Char) (List Char × List Char)
  | [] => .error []
  | '\x7d' :: cs => .ok ([], cs)
  | c :: cs =>
    if c = '(' || c = ')' || c = '\x7b' || c = '|' then .error []
    else match takePropertyName cs with
      | .ok (name, rest) => .ok (c :: name, rest)
      | .error name => .error (c :: name)

/-- A property after `\p` or `\P` and an opening brace. -/
def readProperty (negated : Bool) (cs : List Char) : Except Error (CharSet × List Char) :=
  let (negated, cs) := match cs with
    | '^' :: rest => (!negated, rest)
    | _ => (negated, cs)
  match takePropertyName cs with
  | .error name => .error (.unknownProperty (String.ofList name))
  | .ok (name, rest) =>
    match Property.ofName? name with
    | none => .error (.unknownProperty (String.ofList name))
    | some p => .ok (if negated then .compl (.property p) else .property p, rest)

/-- One token of a class. -/
inductive ClassToken where
  | char (c : Char)
  | set (s : CharSet)
  | bracketName
  | openClass
  | both
  | dash
  | close
deriving DecidableEq, Repr

/-- Whether `:]` comes before any unescaped `]`. -/
def bracketNameAhead : List Char → Bool
  | [] => false
  | '\\' :: _ :: cs => bracketNameAhead cs
  | ':' :: ']' :: _ => true
  | ']' :: _ => false
  | _ :: cs => bracketNameAhead cs

/-- The token after a backslash in a class. -/
def escapedToken : List Char → Except Error (ClassToken × List Char)
  | [] => .error .endsInEscape
  | 'p' :: '\x7b' :: cs => do
    let (s, rest) ← readProperty false cs
    return (.set s, rest)
  | 'P' :: '\x7b' :: cs => do
    let (s, rest) ← readProperty true cs
    return (.set s, rest)
  | 'x' :: '\x7b' :: cs => do
    match ← takeBraced 16 8 cs with
    | some (c, rest) => return (.char c, rest)
    | none => return (.char 'x', '\x7b' :: cs)
  | 'o' :: '\x7b' :: cs => do
    match ← takeBraced 8 11 cs with
    | some (c, rest) => return (.char c, rest)
    | none => return (.char 'o', '\x7b' :: cs)
  | 'x' :: cs => do
    let (ds, rest) := takeDigits isHexDigit 2 cs
    let (c, rest) ← takeEncoded (digitsValue 16 ds) rest
    return (.char c, rest)
  | 'u' :: cs => do
    let (ds, rest) := takeDigits isHexDigit 4 cs
    if ds.length < 4 then throw .tooFewDigits
    return (.char (← charOfCode (digitsValue 16 ds)), rest)
  | c :: cs => do
    match letterClass c with
    | some s => return (.set s, cs)
    | none =>
      if isOctalDigit c then
        let (ds, rest) := takeDigits isOctalDigit 3 (c :: cs)
        if digitsValue 8 ds > 0xff then throw .numberTooLarge
        let (c, rest) ← takeEncoded (digitsValue 8 ds) rest
        return (.char c, rest)
      else
        let (c, rest) ← escapedChar c cs
        return (.char c, rest)

/-- The next token of a class. -/
def classToken : List Char → Except Error (ClassToken × List Char)
  | [] => .error .unclosedClass
  | ']' :: cs => .ok (.close, cs)
  | '-' :: cs => .ok (.dash, cs)
  | '\\' :: cs => escapedToken cs
  | '[' :: ':' :: cs =>
    if bracketNameAhead cs then .ok (.bracketName, ':' :: cs) else .ok (.openClass, ':' :: cs)
  | '[' :: cs => .ok (.openClass, cs)
  | '&' :: '&' :: cs => .ok (.both, cs)
  | c :: cs => .ok (.char c, cs)

/-- Whether a text that should have been a bracket name still ends like one. -/
def endsLikeName : Nat → List Char → Bool
  | 0, cs => cs.take 2 == [':', ']']
  | n + 1, cs =>
    match cs with
    | [] => false
    | ':' :: rest => rest.take 1 == [']']
    | ']' :: _ => false
    | _ :: rest => endsLikeName n rest

/-- A bracket name after its colon; none if it is no name and stands for itself. -/
def readBracketName (cs : List Char) : Except Error (Option (CharSet × List Char)) :=
  let (negated, cs) := match cs with
    | '^' :: rest => (true, rest)
    | _ => (false, cs)
  let known := Property.bracketNames.findSome? fun (name, p) =>
    if name.toList.isPrefixOf cs then some (p, cs.drop name.length) else none
  match (if cs.length < 7 then none else known) with
  | some (p, ':' :: ']' :: rest) =>
    .ok (some (if negated then .compl (.property p) else .property p, rest))
  | some _ => .error .unknownBracketClass
  | none => if endsLikeName 20 cs then .error .unknownBracketClass else .ok none

/-- How far the reading of a value has come. -/
inductive Phase where
  | start
  /-- A value that may start a range; none after a property. -/
  | value (c : Option Char)
  | range (lo : Char)
  | complete
deriving DecidableEq, Repr

structure ClassState where
  members : CharSet
  /-- The operands of `&&` that have ended. -/
  before : Option CharSet
  phase : Phase
deriving DecidableEq, Repr

namespace ClassState

def initial : ClassState := ⟨.none, none, .start⟩

def add (st : ClassState) (s : CharSet) : ClassState :=
  { st with members := if st.members = .none then s else .union st.members s }

/-- Settle a value that waited for a range. -/
def settle (st : ClassState) : ClassState :=
  match st.phase with
  | .value (some c) => { st.add (.single c) with phase := .complete }
  | .value none => { st with phase := .complete }
  | _ => { st with phase := .complete }

/-- A further value. -/
def value (st : ClassState) (c : Char) : Except Error ClassState :=
  match st.phase with
  | .range lo =>
    if c < lo then .error .emptyRange
    else .ok { st.add (.range lo c) with phase := .complete }
  | _ => .ok { st.settle with phase := .value (some c) }

/-- A further property. -/
def property (st : ClassState) (s : CharSet) : Except Error ClassState :=
  match st.phase with
  | .range _ => .error .classEndsRange
  | .start => .ok { st.add s with phase := .start }
  | _ => .ok { st.settle.add s with phase := .value none }

def intersected (st : ClassState) : CharSet :=
  match st.before with
  | some b => .inter b st.settle.members
  | none => st.settle.members

/-- Begin the next operand of `&&`. -/
def nextOperand (st : ClassState) : ClassState :=
  ⟨.none, some st.intersected, .start⟩

end ClassState

/-- The head of a class: whether it is negated, and a first `]` that stands for itself. -/
def classHead (cs : List Char) : Except Error (Bool × ClassState × List Char) :=
  let (negated, cs) := match cs with
    | '^' :: rest => (true, rest)
    | _ => (false, cs)
  match cs with
  | ']' :: rest =>
    if rest.contains ']' then .ok (negated, { ClassState.initial with phase := .value (some ']') }, rest)
    else .error .emptyClass
  | _ => .ok (negated, .initial, cs)

/-- Whether a dash before this text closes the operand and so stands for itself. -/
def operandEnds : List Char → Bool
  | ']' :: _ => true
  | '&' :: '&' :: _ => true
  | _ => false

/-- The members of a class up to its closing bracket; the number bounds the tokens read. -/
def readMembers : Nat → ClassState → List Char → Except Error (CharSet × List Char)
  | 0, _, _ => .error .nestingTooDeep
  | fuel + 1, st, cs => do
    let (token, rest) ← classToken cs
    match token with
    | .close => return (st.intersected, rest)
    | .char c => readMembers fuel (← st.value c) rest
    | .set s => readMembers fuel (← st.property s) rest
    | .dash =>
      match st.phase with
      | .value (some c) =>
        if operandEnds rest then readMembers fuel (← st.value '-') rest
        else readMembers fuel { st with phase := .range c } rest
      | _ => readMembers fuel (← st.value '-') rest
    | .bracketName =>
      match ← readBracketName (rest.drop 1) with
      | some (s, rest) => readMembers fuel (← st.property s) rest
      | none => readMembers fuel (← st.value '[') rest
    | .openClass =>
      let (negated, inner, rest) ← classHead rest
      let (s, rest) ← readMembers fuel inner rest
      let s := if negated then .compl s else s
      readMembers fuel { st.settle.add s with phase := .complete } rest
    | .both => readMembers fuel st.nextOperand rest

/-- A class after its opening bracket. -/
def readClass (anyCase : Bool) (cs : List Char) : Except Error (CharSet × List Char) := do
  let (negated, st, rest) ← classHead cs
  let (s, rest) ← readMembers (rest.length + 1) st rest
  let s := if anyCase then .anyCase s else s
  return (if negated then .compl s else s, rest)

end Scopelight.Regex
