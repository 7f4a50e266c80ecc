import BuildGraph.Pattern.Reader
import BuildGraph.Text.CharName.Find

/-!
# Characters and sets in patterns

A character after a backslash stands for a control character, a property, an anchor, a group or a
code point, which may also be given by a number or by the name of the character. In brackets, the
same holds but for anchors and groups, and two characters with a hyphen between them are a range.

Main definitions: `PatternReader.escape`, `PatternReader.bracket`.
-/

namespace BuildGraph

open BuildGraph.Text BuildGraph.Number

namespace PatternReader

/-- Whether the character is a digit of the given base. -/
def isDigitOf (base : Nat) (c : Char) : Bool := (digitIn? base c).isSome

/-- The number that digits stand for. -/
def numberOf (base : Nat) (cs : List Char) : Nat := ofDigits base (cs.filterMap (digitIn? base))

/-- Takes exactly some hexadecimal digits. -/
def takeHexadecimal (count : Nat) : PatternReader Nat := do
  let cs ← takeWhile count (isDigitOf 16)
  if cs.length = count then return numberOf 16 cs else invalid

/-- The value of an octal escape. -/
def octal (cs : List Char) : PatternReader Nat :=
  let n := numberOf 8 cs
  if n ≤ 255 then return n else invalid

/-- The character that a letter after a backslash stands for. -/
def controlPoint? (c : Char) : Option Nat :=
  if c = 'a' then some 7
  else if c = 'b' then some 8
  else if c = 'f' then some 12
  else if c = 'n' then some 10
  else if c = 'r' then some 13
  else if c = 't' then some 9
  else if c = 'v' then some 11
  else if c = '\\' then some 92
  else none

/-- The property that a letter after a backslash stands for, and whether it is negated. -/
def property? (c : Char) : Option (CharProperty × Bool) :=
  if c = 'd' then some (.digit, false)
  else if c = 'D' then some (.digit, true)
  else if c = 's' then some (.blank, false)
  else if c = 'S' then some (.blank, true)
  else if c = 'w' then some (.word, false)
  else if c = 'W' then some (.word, true)
  else none

/-- The character whose name follows in braces. -/
def namedPoint : PatternReader Nat := do
  expect '\x7b'
  match pointNamed? (← takeName '\x7d') with
  | some n => return n
  | none => invalid

/-- The code point of an escape by number or by name, or of a character that has no meaning of its
own. -/
def escapedPoint (c : Char) : PatternReader Nat := do
  if c = 'x' then takeHexadecimal 2
  else if c = 'u' then takeHexadecimal 4
  else if c = 'U' then
    let n ← takeHexadecimal 8
    if n ≤ 0x10ffff then return n else invalid
  else if c = 'N' then namedPoint
  else if c.isAlphanum then invalid
  else return c.toNat

/-- A set with a single property. -/
def propertySet (p : CharProperty × Bool) : PatternReader PatternPart := do
  return .one (.member { members := [.having p.1 p.2], reading := (← get).flags.reading })

/-- A single code point. -/
def literal (n : Nat) : PatternReader PatternPart := do
  return .one (.literal n false (← get).flags.reading.case)

/-- Refuses a group that is open, or that a look behind may not refer to. -/
def checkLimit (group : Nat) : PatternReader Unit := do
  let s ← get
  match s.limit with
  | none => return
  | some limit => if (s.closedWidth? group).isNone || limit < group then invalid

/-- What a group matched, again. -/
def groupAgain (group : Nat) : PatternReader PatternPart := do
  let s ← get
  if (s.closedWidth? group).isNone then invalid
  checkLimit group
  return .again group s.flags.reading.case

/-- What begins with a digit after a backslash: an octal number, or a group. -/
def numberedEscape (c : Char) : PatternReader PatternPart := do
  if c = '0' then
    literal (← octal (c :: (← takeWhile 2 (isDigitOf 8))))
  else
    let second ← takeWhile 1 Char.isDigit
    let third ←
      if isDigitOf 8 c && !second.isEmpty && second.all (isDigitOf 8) then
        takeWhile 1 (isDigitOf 8)
      else pure []
    if third.isEmpty then groupAgain (numberOf 10 (c :: second))
    else literal (← octal (c :: second ++ third))

/-- What a character after a backslash stands for, outside of sets. -/
def escape (c : Char) : PatternReader PatternPart := do
  let flags := (← get).flags
  if c = 'A' then return .anchor (.start false)
  else if c = 'Z' then return .anchor .veryEnd
  else if c = 'b' then return .anchor (.boundary false flags.ascii)
  else if c = 'B' then return .anchor (.boundary true flags.ascii)
  else match property? c, controlPoint? c with
    | some p, _ => propertySet p
    | none, some n => literal n
    | none, none => if c.isDigit then numberedEscape c else literal (← escapedPoint c)

/-- What a character after a backslash stands for, inside of a set. -/
def setEscape (c : Char) : PatternReader SetMember := do
  match controlPoint? c, property? c with
  | some n, _ => return .point n
  | none, some p => return .having p.1 p.2
  | none, none =>
    if isDigitOf 8 c then return .point (← octal (c :: (← takeWhile 2 (isDigitOf 8))))
    else return .point (← escapedPoint c)

/-- A member of a set that begins with the given sign. -/
def setMember : Sign → PatternReader SetMember
  | .plain c => return .point c.toNat
  | .escaped c => setEscape c
  | .dangling => invalid

/-- The members of a set up to and with the closing bracket. The first argument bounds their
number. -/
def setMembers : Nat → (first : Bool) → PatternReader (List SetMember)
  | 0, _ => invalid
  | fuel + 1, first => do
    let sign ← take
    if sign == .plain ']' && !first then return []
    let low ← setMember sign
    if !(← accept '-') then return low :: (← setMembers fuel false)
    let last ← take
    if last == .plain ']' then return [low, .point 45]
    match low, ← setMember last with
    | .point a, .point b =>
      if b < a then invalid else return .range a b :: (← setMembers fuel false)
    | _, _ => invalid

/-- A set, after the opening bracket. A set of one character is that character. -/
def bracket : PatternReader PatternPart := do
  let negated ← accept '^'
  let s ← get
  match (← setMembers (s.rest.length + 1) true).eraseDups with
  | [.point n] => return .one (.literal n negated s.flags.reading.case)
  | members => return .one (.member { negated, members, reading := s.flags.reading })

end PatternReader

end BuildGraph
