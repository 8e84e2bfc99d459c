import Scopelight.Regex.Folding
import Scopelight.Regex.Class

/-!
# Reading patterns

A pattern is read from left to right by a machine that keeps the groups that are still open. Each
step takes at least one character, so the length of the pattern bounds their number. What can be
checked only at the end (numbers of groups that are referred to, names that are called) is checked
on the finished tree.
-/

namespace Scopelight.Regex

open Text

/-- The options that inline groups switch. -/
structure Options where
  anyCase : Bool
  /-- A dot matches line feeds too. -/
  dotAll : Bool
  /-- Blanks and comments outside classes are skipped. -/
  spaced : Bool
deriving DecidableEq, Repr

def Options.initial : Options := ⟨false, false, false⟩

/-- What an open group becomes when it is closed. -/
inductive GroupKind where
  | plain
  | numbered (n : Nat)
  | atomic
  | ahead (negated : Bool)
  | behind (negated : Bool)
  /-- Options switched for the rest of the enclosing group, with which it ends. -/
  | tail
deriving DecidableEq, Repr

/-- An open group: the alternatives before the current one and the current one, latest first. -/
structure OpenGroup where
  kind : GroupKind
  outer : Options
  branches : List Node
  items : List Node
deriving DecidableEq, Repr

/-- What a subexpression call names. -/
inductive Callee where
  | number (n : Nat)
  | name (s : String)
deriving DecidableEq, Repr

/-- How far a pattern has been read. -/
structure Reading where
  options : Options
  /-- Numbered groups opened so far. -/
  groups : Nat
  /-- Their names, latest first. -/
  names : List (String × Nat)
  /-- Calls, latest first; in the tree a call holds its place among them. -/
  calls : List Callee
  top : OpenGroup
  below : List OpenGroup
deriving DecidableEq, Repr

namespace OpenGroup

/-- The tree of what stands in the group. -/
def body (g : OpenGroup) : Node :=
  .ofAlts (g.branches.reverse ++ [.ofSeq g.items.reverse])

def close (g : OpenGroup) : Node :=
  match g.kind with
  | .plain | .tail => g.body
  | .numbered n => .group n g.body
  | .atomic => .atomic g.body
  | .ahead false => .lookahead g.body
  | .ahead true => .notAhead g.body
  | .behind false => .lookbehind g.body
  | .behind true => .notBehind g.body

end OpenGroup

namespace Reading

def initial : Reading :=
  ⟨.initial, 0, [], [], ⟨.plain, .initial, [], []⟩, []⟩

/-- A further item of the current alternative. -/
def push (r : Reading) (n : Node) : Reading :=
  { r with top := { r.top with items := n :: r.top.items } }

def pushChar (r : Reading) (c : Char) : Reading :=
  r.push (.char c r.options.anyCase)

def pushSet (r : Reading) (s : CharSet) : Reading :=
  r.push (.set s)

def pushAnchor (r : Reading) (a : Anchor) : Reading :=
  r.push (.anchor a)

/-- The next alternative. -/
def branch (r : Reading) : Reading :=
  { r with top := { r.top with
      branches := .ofSeq r.top.items.reverse :: r.top.branches, items := [] } }

def openGroup (r : Reading) (kind : GroupKind) (inner : Options) : Reading :=
  { r with options := inner, top := ⟨kind, r.options, [], []⟩, below := r.top :: r.below }

/-- Close open groups from the innermost out: option tails, then the first proper group. -/
def closeFrom (r : Reading) (top : OpenGroup) : List OpenGroup → Except Error Reading
  | [] => .error .unopenedGroup
  | outer :: below =>
    let outer := { outer with items := top.close :: outer.items }
    if top.kind = .tail then closeFrom r outer below
    else .ok { r with options := top.outer, top := outer, below }

def closeGroup (r : Reading) : Except Error Reading :=
  r.closeFrom r.top r.below

/-- The finished tree once the pattern has ended. -/
def finishFrom (top : OpenGroup) : List OpenGroup → Except Error Node
  | [] => .ok top.body
  | outer :: below =>
    if top.kind = .tail then finishFrom { outer with items := top.close :: outer.items } below
    else .error .unclosedGroup

def finish (r : Reading) : Except Error Node := finishFrom r.top r.below

/-- The numbers of a name's groups, the latest first. -/
def groupsNamed (r : Reading) (name : String) : List Nat :=
  (r.names.filter (·.1 == name)).map (·.2)

end Reading

/-- How often an item is to match. -/
structure Quantifier where
  least : Nat
  most : Option Nat
  greedy : Bool
  possessive : Bool
deriving DecidableEq, Repr

/-- Repeat an item. Once is no repetition. -/
def Quantifier.apply (q : Quantifier) (n : Node) : Node :=
  if q.least = 1 ∧ q.most = some 1 then n
  else
    let body := Node.repeated n q.least q.most q.greedy
    if q.possessive then .atomic body else body

def Reading.quantify (r : Reading) (q : Quantifier) : Except Error Reading :=
  match r.top.items with
  | [] => .error .nothingToRepeat
  | n :: ns => .ok { r with top := { r.top with items := q.apply n :: ns } }

/-- The mark after `*`, `+` or `?`. -/
def readMode (least : Nat) (most : Option Nat) : List Char → Quantifier × List Char
  | '?' :: cs => (⟨least, most, false, false⟩, cs)
  | '+' :: cs => (⟨least, most, true, true⟩, cs)
  | cs => (⟨least, most, true, false⟩, cs)

def takeNumber (cs : List Char) : List Char × List Char :=
  takeDigits isAsciiDigit cs.length cs

/-- The largest bound of an interval. -/
def maxRepeat : Nat := 100000

/-- The bounds of an interval after its opening brace; none if the brace stands for itself. -/
def readBounds (cs : List Char) : Except Error (Option (Nat × Option Nat × Bool × List Char)) :=
  let (low, rest) := takeNumber cs
  if cs.isEmpty then .ok none
  else if digitsValue 10 low > maxRepeat then .error .repeatTooLarge
  else match rest with
    | ',' :: rest =>
      let (high, rest) := takeNumber rest
      if digitsValue 10 high > maxRepeat then .error .repeatTooLarge
      else if low.isEmpty && high.isEmpty then .ok none
      else match rest with
        | '\x7d' :: rest =>
          .ok (some (digitsValue 10 low,
            if high.isEmpty then none else some (digitsValue 10 high), false, rest))
        | _ => .ok none
    | '\x7d' :: rest =>
      if low.isEmpty then .ok none
      else .ok (some (digitsValue 10 low, some (digitsValue 10 low), true, rest))
    | _ => .ok none

/-- An interval after its opening brace. Bounds in the wrong order are swapped and possessive; an
exact count is greedy, so that a mark after it is a quantifier of its own. -/
def readInterval (cs : List Char) : Except Error (Option (Quantifier × List Char)) := do
  match ← readBounds cs with
  | none => return none
  | some (least, some most, exact, rest) =>
    if most < least then return some (⟨most, some least, true, true⟩, rest)
    else if exact then return some (⟨least, some most, true, false⟩, rest)
    else match rest with
      | '?' :: rest => return some (⟨least, some most, false, false⟩, rest)
      | _ => return some (⟨least, some most, true, false⟩, rest)
  | some (least, none, _, '?' :: rest) => return some (⟨least, none, false, false⟩, rest)
  | some (least, none, _, rest) => return some (⟨least, none, true, false⟩, rest)

/-- The name of a group, or a number where one is referred to. -/
inductive GroupName where
  | number (n : Nat)
  | relative (back : Bool) (n : Nat)
  | name (s : String)
deriving DecidableEq, Repr

/-- The part of a bad name that an error shows: up to its end, or to the end of the pattern if that
comes right after. -/
def shownName (close : Char) (cs : List Char) : String :=
  let name := cs.takeWhile fun c => c != close && c != ')'
  String.ofList (if cs.length ≤ name.length + 1 then cs else name)

/-- A name's characters up to its closing mark; they must all be word characters, and digits if a
number was begun. -/
def nameBody (numeric : Bool) (close : Char) (cs : List Char) (whole : List Char) :
    Except Error (List Char × List Char) :=
  match cs with
  | [] => .error (.badGroupName (String.ofList whole))
  | c :: rest =>
    if c = close then .ok ([], rest)
    else if c = ')' then .error (.badGroupName (String.ofList whole))
    else if numeric && !isAsciiDigit c then
      .error ((if isWordChar c then Error.badGroupName else Error.badGroupNameChar)
        (shownName close whole))
    else if !numeric && !isWordChar c then
      .error (.badGroupNameChar (shownName close whole))
    else do
      let (name, rest) ← nameBody numeric close rest whole
      return (c :: name, rest)

/-- The name of a group that is defined here. -/
def readNewName (close : Char) (cs : List Char) : Except Error (String × List Char) :=
  match cs with
  | [] => .error .emptyGroupName
  | c :: _ =>
    if c = close then .error .emptyGroupName
    else if isAsciiDigit c || c = '-' || c = '+' then .error (.badGroupName (shownName close cs))
    else do
      let (name, rest) ← nameBody false close cs cs
      return (String.ofList name, rest)

/-- The name or number of a group that is referred to. -/
def readReference (close : Char) (cs : List Char) : Except Error (GroupName × List Char) :=
  match cs with
  | [] => .error .emptyGroupName
  | c :: rest =>
    if c = close then .error .emptyGroupName
    else if isAsciiDigit c then do
      let (ds, rest) ← nameBody true close cs cs
      return (.number (digitsValue 10 ds), rest)
    else if c = '-' || c = '+' then do
      let (ds, rest) ← nameBody true close rest cs
      if digitsValue 10 ds = 0 then throw (.badGroupName (String.ofList (c :: ds)))
      return (.relative (c == '-') (digitsValue 10 ds), rest)
    else do
      let (name, rest) ← nameBody false close cs cs
      return (.name (String.ofList name), rest)

/-- The mark that closes a name. -/
def closingMark (c : Char) : Char := if c = '<' then '>' else c

/-- The number of a group counted from here. -/
def Reading.relativeGroup (r : Reading) (back : Bool) (n : Nat) : Nat :=
  if back then r.groups + 1 - n else r.groups + n

/-- A backreference by name or number. -/
def Reading.refer (r : Reading) (opening : Char) (cs : List Char) :
    Except Error (Reading × List Char) := do
  let (target, rest) ← readReference (closingMark opening) cs
  let groups ← match target with
    | .number n => pure [n]
    | .relative back n => pure [r.relativeGroup back n]
    | .name name =>
      match r.groupsNamed name with
      | [] => throw (.undefinedName name)
      | groups => pure groups
  if groups.contains 0 then throw .badBackreference
  return (r.push (.backref groups r.options.anyCase), rest)

/-- A subexpression call. -/
def Reading.callGroup (r : Reading) (opening : Char) (cs : List Char) :
    Except Error (Reading × List Char) := do
  let (target, rest) ← readReference (closingMark opening) cs
  let callee := match target with
    | .number n => Callee.number n
    | .relative back n => .number (r.relativeGroup back n)
    | .name name => .name name
  return ({ r with calls := callee :: r.calls }.push (.call r.calls.length), rest)

/-- A line break of any kind, two characters or one. -/
def lineBreak : Node :=
  .atomic (.alt (.seq (.char '\r' false) (.char '\n' false))
    (.set (.union (.range '\n' '\r') (.union (.single '\u0085') (.range '\u2028' '\u2029')))))

/-- Anchors that are escapes. -/
def escapedAnchor : Char → Option Anchor
  | 'A' => some .textStart
  | 'Z' => some .lastLineEnd
  | 'z' => some .textEnd
  | 'G' => some .searchStart
  | 'b' => some .wordBoundary
  | 'B' => some .notWordBoundary
  | _ => none

/-- Other items that are escapes. -/
def escapedItem : Char → Option Node
  | 'K' => some .keep
  | 'R' => some lineBreak
  | 'N' => some (.set (.compl (.single '\n')))
  | 'O' => some (.set (.property .any))
  | c => ((letterClass c).map Node.set).or ((escapedAnchor c).map Node.anchor)

/-- The largest number that can be meant as a backreference. -/
def maxBackref : Nat := 1000

/-- An escape that starts with a digit: a backreference, an octal byte, or the digit itself. -/
def Reading.escapedDigit (r : Reading) (c : Char) (cs : List Char) :
    Except Error (Reading × List Char) := do
  let (ds, rest) := takeNumber (c :: cs)
  let n := digitsValue 10 ds
  if c ≠ '0' ∧ n ≤ maxBackref ∧ (n ≤ r.groups ∨ n ≤ 9) then
    return (r.push (.backref [n] r.options.anyCase), rest)
  if c = '8' ∨ c = '9' then return (r.pushChar c, cs)
  let (ds, rest) := takeDigits isOctalDigit 3 (c :: cs)
  if digitsValue 8 ds > 0xff then throw .numberTooLarge
  let (c, rest) ← takeEncoded (digitsValue 8 ds) rest
  return (r.pushChar c, rest)

/-- The item after a backslash. -/
def Reading.escape (r : Reading) : List Char → Except Error (Reading × List Char)
  | [] => .error .endsInEscape
  | 'p' :: '\x7b' :: cs => do
    let (s, rest) ← readProperty false cs
    return (r.pushSet s, rest)
  | 'P' :: '\x7b' :: cs => do
    let (s, rest) ← readProperty true cs
    return (r.pushSet s, rest)
  | 'k' :: '<' :: cs => r.refer '<' cs
  | 'k' :: '\'' :: cs => r.refer '\'' cs
  | 'g' :: '<' :: cs => r.callGroup '<' cs
  | 'g' :: '\'' :: cs => r.callGroup '\'' cs
  | 'x' :: '\x7b' :: cs => do
    match ← takeBraced 16 8 cs with
    | some (c, rest) => return (r.pushChar c, rest)
    | none => return (r.pushChar 'x', '\x7b' :: cs)
  | 'o' :: '\x7b' :: cs => do
    match ← takeBraced 8 11 cs with
    | some (c, rest) => return (r.pushChar c, rest)
    | none => return (r.pushChar 'o', '\x7b' :: cs)
  | 'x' :: c :: cs => do
    let (ds, rest) := takeDigits isHexDigit 2 (c :: cs)
    let (c, rest) ← takeEncoded (digitsValue 16 ds) rest
    return (r.pushChar c, rest)
  | 'u' :: c :: cs => do
    let (ds, rest) := takeDigits isHexDigit 4 (c :: cs)
    if ds.length < 4 then throw .tooFewDigits
    return (r.pushChar (← charOfCode (digitsValue 16 ds)), rest)
  | 'X' :: _ | 'y' :: _ | 'Y' :: _ => .error .textSegment
  | c :: cs =>
    match escapedItem c with
    | some n => .ok (r.push n, cs)
    | none =>
      if isAsciiDigit c then r.escapedDigit c cs
      else do
        let (c, rest) ← escapedChar c cs
        return (r.pushChar c, rest)

/-- Skip a comment group after its `#`. -/
def skipComment : List Char → Except Error (List Char)
  | [] => .error .endsInGroup
  | ')' :: cs => .ok cs
  | '\\' :: _ :: cs => skipComment cs
  | _ :: cs => skipComment cs

/-- Switch one option. -/
def Options.switch (o : Options) (off : Bool) : Char → Option Options
  | 'i' => some { o with anyCase := !off }
  | 'm' => some { o with dotAll := !off }
  | 'x' => some { o with spaced := !off }
  | _ => none

/-- Inline options up to `)` or `:`; true if a group follows. -/
def readOptions (o : Options) (off : Bool) : List Char → Except Error (Options × Bool × List Char)
  | [] => .error .endsInGroup
  | ')' :: cs => .ok (o, false, cs)
  | ':' :: cs => .ok (o, true, cs)
  | '-' :: cs => readOptions o true cs
  | c :: cs =>
    match o.switch off c with
    | some o => readOptions o off cs
    | none => .error .unknownOption

def Reading.openNumbered (r : Reading) : Reading :=
  { r with groups := r.groups + 1 }.openGroup (.numbered (r.groups + 1)) r.options

def Reading.openNamed (r : Reading) (close : Char) (cs : List Char) :
    Except Error (Reading × List Char) := do
  let (name, rest) ← readNewName close cs
  return ({ r with names := (name, r.groups + 1) :: r.names }.openNumbered, rest)

/-- The group after `(?`. -/
def Reading.special (r : Reading) : List Char → Except Error (Reading × List Char)
  | [] => .error .endsInGroup
  | ':' :: cs => .ok (r.openGroup .plain r.options, cs)
  | '=' :: cs => .ok (r.openGroup (.ahead false) r.options, cs)
  | '!' :: cs => .ok (r.openGroup (.ahead true) r.options, cs)
  | '>' :: cs => .ok (r.openGroup .atomic r.options, cs)
  | '<' :: '=' :: cs => .ok (r.openGroup (.behind false) r.options, cs)
  | '<' :: '!' :: cs => .ok (r.openGroup (.behind true) r.options, cs)
  | ['<'] => .error .unclosedGroup
  | '<' :: cs => r.openNamed '>' cs
  | '\'' :: cs => r.openNamed '\'' cs
  | '#' :: cs => do return (r, ← skipComment cs)
  | c :: cs =>
    if c = ')' ∨ c = ':' then .error .unknownOption
    else do
      let (options, grouped, rest) ← readOptions r.options false (c :: cs)
      return (r.openGroup (if grouped then .plain else .tail) options, rest)

/-- The rest of a line comment. -/
def skipLine (cs : List Char) : List Char :=
  (cs.dropWhile (· != '\n')).drop 1

/-- Blanks that are skipped between items. -/
def isSpacing (c : Char) : Bool :=
  c == ' ' || c == '\t' || c == '\n' || c == '\r' || c == '\x0c'

/-- A dot under the given options. -/
def dotSet (o : Options) : CharSet :=
  if o.dotAll then .property .any else .compl (.single '\n')

/-- Read one item, quantifier or mark of grouping. -/
def Reading.step (r : Reading) (c : Char) (cs : List Char) :
    Except Error (Reading × List Char) :=
  match c with
  | '\\' => r.escape cs
  | '[' => do
    let (s, rest) ← readClass r.options.anyCase cs
    return (r.pushSet s, rest)
  | '(' =>
    match cs with
    | '?' :: cs => r.special cs
    | [] => .error .unclosedGroup
    | cs => .ok (r.openNumbered, cs)
  | ')' => do return (← r.closeGroup, cs)
  | '|' => .ok (r.branch, cs)
  | '.' => .ok (r.pushSet (dotSet r.options), cs)
  | '^' => .ok (r.pushAnchor .lineStart, cs)
  | '$' => .ok (r.pushAnchor .lineEnd, cs)
  | '*' => do
    let (q, rest) := readMode 0 none cs
    return (← r.quantify q, rest)
  | '+' => do
    let (q, rest) := readMode 1 none cs
    return (← r.quantify q, rest)
  | '?' => do
    let (q, rest) := readMode 0 (some 1) cs
    return (← r.quantify q, rest)
  | '\x7b' => do
    match ← readInterval cs with
    | some (q, rest) => return (← r.quantify q, rest)
    | none => return (r.pushChar c, cs)
  | c =>
    if r.options.spaced && c == '#' then .ok (r, skipLine cs)
    else if r.options.spaced && isSpacing c then .ok (r, cs)
    else .ok (r.pushChar c, cs)

/-- Read to the end of the pattern; the number bounds the steps. -/
def Reading.run : Nat → Reading → List Char → Except Error Reading
  | _, r, [] => .ok r
  | 0, _, _ :: _ => .error .nestingTooDeep
  | fuel + 1, r, c :: cs => do
    let (r, rest) ← r.step c cs
    r.run fuel rest

/-- The group that a call means. -/
def Reading.bind (r : Reading) : Callee → Except Error Nat
  | .number n => if n ≤ r.groups then .ok n else .error (.undefinedGroup (toString n))
  | .name name =>
    match r.groupsNamed name with
    | [] => .error (.undefinedName name)
    | [n] => .ok n
    | _ => .error (.ambiguousCall name)

/-- Replace the places of calls by the groups they mean, and check backreferences and
lookbehinds. -/
def Node.bindCalls (r : Reading) (calls : List Callee) : Node → Except Error Node
  | .seq a b => return .seq (← a.bindCalls r calls) (← b.bindCalls r calls)
  | .alt a b => return .alt (← a.bindCalls r calls) (← b.bindCalls r calls)
  | .repeated body least most greedy => return .repeated (← body.bindCalls r calls) least most greedy
  | .group n body => return .group n (← body.bindCalls r calls)
  | .atomic body => return .atomic (← body.bindCalls r calls)
  | .lookahead body => return .lookahead (← body.bindCalls r calls)
  | .notAhead body => return .notAhead (← body.bindCalls r calls)
  | .lookbehind body => return .lookbehind (← body.bindCalls r calls)
  | .notBehind body => return .notBehind (← body.bindCalls r calls)
  | .call i =>
    match calls[i]? with
    | some callee => return .call (← r.bind callee)
    | none => throw .badBackreference
  | n => return n

/-- Groups that are referred to must exist, and a negated lookbehind holds none. -/
def Node.check (groups : Nat) : Node → Except Error Unit
  | .seq a b | .alt a b => do
    a.check groups
    b.check groups
  | .notBehind body => if body.hasGroup then .error .badLookbehind else body.check groups
  | .repeated body _ _ _ | .group _ body | .atomic body | .lookahead body | .notAhead body
  | .lookbehind body => body.check groups
  | .backref ns _ => if ns.all (· ≤ groups) then .ok () else .error .badBackreference
  | .empty | .char _ _ | .set _ | .anchor _ | .call _ | .keep => .ok ()

/-- The tree of a pattern and the number of its groups. -/
def readPattern (cs : List Char) : Except Error (Node × Nat) := do
  let r ← Reading.initial.run cs.length cs
  let node ← (← r.finish).bindCalls r r.calls.reverse
  node.check r.groups
  return (node.folded, r.groups)

end Scopelight.Regex
