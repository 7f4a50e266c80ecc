import BuildGraph.Pattern.Letters

/-!
# Patterns

A pattern describes texts. It is a sequence of parts: tests of single characters, anchors, choices,
repetitions, groups that remember what they matched, and conditions on what lies ahead or behind.
This module holds the types, the tests of single characters, and the least and the greatest length
of what a pattern matches.
-/

namespace BuildGraph

open BuildGraph.Text

/-- A property that the characters of a set may have. -/
inductive CharProperty where
  | digit | blank | word
  deriving DecidableEq, Repr

/-- A member of a set of characters. -/
inductive SetMember where
  | point (n : Nat)
  | range (low high : Nat)
  | having (property : CharProperty) (negated : Bool)
  deriving DecidableEq, Repr

/-- How a pattern looks at characters. -/
structure CharReading where
  case : CaseRule := .exact
  /-- Whether properties are those of ASCII characters alone. -/
  asciiOnly : Bool := false
  deriving DecidableEq, Repr

/-- A set of characters. -/
structure CharSet where
  negated : Bool := false
  members : List SetMember
  reading : CharReading := {}
  deriving DecidableEq, Repr

/-- What a single character is tested for. -/
inductive CharTest where
  /-- One code point, or any but this one. -/
  | literal (n : Nat) (negated : Bool) (case : CaseRule)
  | member (s : CharSet)
  /-- Any character, or any but a line feed. -/
  | any (breaksToo : Bool)
  deriving DecidableEq, Repr

/-- A place in a text. -/
inductive Anchor where
  /-- The start of the text, or of any line. -/
  | start (lines : Bool)
  /-- The end of the text or before a line feed at its end, or the end of any line. -/
  | stop (lines : Bool)
  /-- The very end of the text. -/
  | veryEnd
  /-- A place between a word and no word, or any other place. -/
  | boundary (negated asciiOnly : Bool)
  deriving DecidableEq, Repr

/-- Which of the possible repetitions is tried first, and whether others are tried. -/
inductive Eagerness where
  | greedy | lazy | possessive
  deriving DecidableEq, Repr

/-- The least and the greatest length of what a pattern matches. There may be no greatest one. -/
structure Width where
  least : Nat
  most : Option Nat
  deriving DecidableEq, Repr

/-- A part of a pattern. -/
inductive PatternPart where
  | one (test : CharTest)
  | anchor (a : Anchor)
  /-- What a group matched, again. -/
  | again (group : Nat) (case : CaseRule)
  | either (ways : List (List PatternPart))
  /-- A group, which remembers what it matched if it has a number. -/
  | group (number : Option Nat) (content : List PatternPart)
  /-- The first way to match alone. -/
  | atomic (content : List PatternPart)
  /-- A condition on what lies ahead, or behind if a width is given. -/
  | look (behind : Option Width) (negated : Bool) (content : List PatternPart)
  | repeated (eagerness : Eagerness) (least : Nat) (most : Option Nat)
      (content : List PatternPart)
  | ifCaptured (group : Nat) (yes no : List PatternPart)

/-- A description of texts: one part after the other. -/
abbrev Pattern := List PatternPart

/-- Whether a character has a property. -/
def CharProperty.holds (asciiOnly : Bool) (c : Char) : CharProperty → Bool
  | digit => if asciiOnly then c.isDigit else isDecimal c
  | blank =>
    if asciiOnly then c == ' ' || (9 ≤ c.toNat && c.toNat ≤ 13) else isBlank c
  | word =>
    c == '_' || if asciiOnly then c.isAlphanum else isAlphanumeric c

/-- The first code point beyond the basic plane. -/
def planeEnd : Nat := 0x10000

namespace CharSet

/-- Whether a character counts as the same as a member. Members beyond the basic plane are compared
with the lower-case form as they stand. -/
def pointHolds (case : CaseRule) (n : Nat) (c : Char) : Bool :=
  if case.fold n < planeEnd then case.same n c.toNat else case.fold c.toNat == n

/-- Whether a character counts as the same as one of a range. Beyond the basic plane, these are the
characters whose lower-case form is in the range, or the upper-case form of that. -/
def rangeHolds (case : CaseRule) (low high : Nat) (c : Char) : Bool :=
  let within (n : Nat) : Bool := low ≤ n && n ≤ high
  if case == .exact then within c.toNat
  else
    let form := case.fold c.toNat
    ((case.variants c.toNat).any fun n => n < planeEnd && within n) ||
      (planeEnd ≤ high && (within form || within (upperPoint form)))

/-- Whether a character is in the member of a set. -/
def memberHolds (reading : CharReading) (c : Char) : SetMember → Bool
  | .point n => pointHolds reading.case n c
  | .range low high => rangeHolds reading.case low high c
  | .having property negated => property.holds reading.asciiOnly c != negated

/-- Whether a character is in the set. -/
def contains (s : CharSet) (c : Char) : Bool :=
  (s.members.any (memberHolds s.reading c)) != s.negated

/-- Whether the case of a member matters. -/
def memberIsCased (case : CaseRule) : SetMember → Bool
  | .point n => case.isCased n
  | .range low high => case.meetsCased low high
  | .having .. => false

/-- Whether a member goes beyond the basic plane. -/
def memberIsFar (case : CaseRule) : SetMember → Bool
  | .point n => planeEnd ≤ case.fold n
  | .range _ high => planeEnd ≤ high
  | .having .. => false

/-- Whether characters are brought to one case before they are looked up in the set. -/
def isFolded (s : CharSet) : Bool :=
  s.reading.case != .exact &&
    s.members.any fun m => memberIsCased s.reading.case m || memberIsFar s.reading.case m

end CharSet

namespace CharTest

/-- Whether a character passes the test. -/
def holds (c : Char) : CharTest → Bool
  | literal n negated case => case.same n c.toNat != negated
  | member s => s.contains c
  | any breaksToo => breaksToo || c != '\n'

/-- The one character that passes the test, if it does so as it stands. -/
def plainLiteral? : CharTest → Option Nat
  | literal n false case => if case.isCased n then none else some n
  | _ => none

/-- Whether the test tells at a glance that a text cannot go on here: a literal or a set for which
case does not matter. -/
def isPlain : CharTest → Bool
  | literal n negated case => !negated && !case.isCased n
  | member s => !s.isFolded
  | any _ => false

/-- Whether counting the characters that pass the test moves on through the text: so it does for
sets, among them the letters that have more than two forms, if case matters. -/
def movesOn : CharTest → Bool
  | literal n _ case => 1 < (case.alike (case.fold n)).length
  | member s => s.isFolded
  | any _ => false

end CharTest

namespace Width

/-- The width of one text after another. -/
def add (v w : Width) : Width where
  least := v.least + w.least
  most := do return (← v.most) + (← w.most)

/-- The width of one text or another. -/
def join (v w : Width) : Width where
  least := min v.least w.least
  most := do return max (← v.most) (← w.most)

/-- The width of repetitions. -/
def times (least : Nat) (most : Option Nat) (w : Width) : Width where
  least := w.least * least
  most := match most, w.most with
    | _, some 0 => some 0
    | some n, some m => some (n * m)
    | _, none => if most = some 0 then some 0 else none
    | none, _ => none

/-- The least number of repetitions that is too large, and the least length that none has. -/
def limit : Nat := 4294967295

/-- Whether there is only one length. -/
def isFixed (w : Width) : Bool := w.most == some w.least && decide (w.least < limit)

end Width

mutual

/-- The width of a part, given the widths of groups. -/
def PatternPart.width (groups : Nat → Width) : PatternPart → Width
  | .one _ => ⟨1, some 1⟩
  | .anchor _ | .look .. => ⟨0, some 0⟩
  | .again group _ => groups group
  | .either ways => Pattern.widthOfWays groups ways
  | .group _ content | .atomic content => Pattern.width groups content
  | .repeated _ least most content => (Pattern.width groups content).times least most
  | .ifCaptured _ yes no => (Pattern.width groups yes).join (Pattern.width groups no)

/-- The width of a pattern, given the widths of groups. -/
def Pattern.width (groups : Nat → Width) : List PatternPart → Width
  | [] => ⟨0, some 0⟩
  | part :: rest => (part.width groups).add (Pattern.width groups rest)

/-- The width of a choice, given the widths of groups. -/
def Pattern.widthOfWays (groups : Nat → Width) : List (List PatternPart) → Width
  | [] => ⟨0, some 0⟩
  | [way] => Pattern.width groups way
  | way :: rest => (Pattern.width groups way).join (Pattern.widthOfWays groups rest)

end

mutual

/-- Whether a part or any part inside of it passes a test. -/
def PatternPart.has (test : PatternPart → Bool) : PatternPart → Bool
  | .either ways => test (.either ways) || Pattern.wayHas test ways
  | .group number content => test (.group number content) || Pattern.has test content
  | .atomic content => test (.atomic content) || Pattern.has test content
  | .look behind negated content =>
    test (.look behind negated content) || Pattern.has test content
  | .repeated eagerness least most content =>
    test (.repeated eagerness least most content) || Pattern.has test content
  | .ifCaptured group yes no =>
    test (.ifCaptured group yes no) || Pattern.has test yes || Pattern.has test no
  | part => test part

/-- Whether any part of a pattern passes a test. -/
def Pattern.has (test : PatternPart → Bool) : List PatternPart → Bool
  | [] => false
  | part :: rest => part.has test || Pattern.has test rest

/-- Whether any part of some patterns passes a test. -/
def Pattern.wayHas (test : PatternPart → Bool) : List (List PatternPart) → Bool
  | [] => false
  | way :: rest => Pattern.has test way || Pattern.wayHas test rest

end

namespace PatternPart

/-- Whether the part is a repetition. -/
def isRepeated : PatternPart → Bool
  | repeated .. => true
  | _ => false

/-- Whether the part looks behind for texts of several lengths. -/
def looksBehindLoosely : PatternPart → Bool
  | look (some width) .. => !width.isFixed
  | _ => false

/-- The longest text that can be looked at behind a place. -/
def farthestLook : Nat := 0x7fffffff

/-- Whether the part looks too far behind. -/
def looksTooFar : PatternPart → Bool
  | look (some width) .. => farthestLook < width.least
  | _ => false

end PatternPart

end BuildGraph
