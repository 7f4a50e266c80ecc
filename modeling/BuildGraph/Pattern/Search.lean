import BuildGraph.Pattern.Match
import BuildGraph.Pattern.Read

/-!
# Searching for a pattern

A search tries a pattern at every place of a text, from the start on, and stops at the first place
where it matches. The length of what the pattern matches, and the character that it begins with,
rule out some places beforehand. A set that a pattern begins with is read for this as it stands
under the flags for all of the pattern, without regard to those of a group.

Main definition: `SearchPattern.occursIn`.
-/

namespace BuildGraph

/-- What is known about the start of a match. -/
inductive SearchStart where
  | unknown
  /-- It begins with one of some characters that stand for themselves. -/
  | literal
  /-- It begins with a character of a set. -/
  | among (s : CharSet)
  deriving DecidableEq, Repr

namespace SearchStart

mutual

/-- Whether a part begins with a character that stands for itself. A part with nothing in it does
not settle this. -/
def partIsLiteral? : PatternPart → Option Bool
  | .one test => some test.plainLiteral?.isSome
  | .group _ content => isLiteral? content
  | _ => some false

/-- Whether a pattern begins with a character that stands for itself. -/
def isLiteral? : List PatternPart → Option Bool
  | [] => none
  | part :: rest => (partIsLiteral? part).or (isLiteral? rest)

end

/-- Whether a way begins with a test for a character that stands for itself. -/
def wayIsLiteral : List PatternPart → Bool
  | .one test :: _ => test.plainLiteral?.isSome
  | _ => false

/-- Whether a set is the same in whatever way case is regarded. -/
def isSettled (s : CharSet) : Bool :=
  s.reading.case == .exact || s.members.all fun m =>
    !CharSet.memberIsCased s.reading.case m &&
      match m with
      | .range _ high => high < planeEnd
      | _ => true

/-- What is known about the start of a pattern that does not begin with a character that stands for
itself. -/
def ofFirst (asciiOnly : Bool) : List PatternPart → SearchStart
  | .group _ content :: _ => ofFirst asciiOnly content
  | .either ways :: _ => if ways.all wayIsLiteral then literal else unknown
  | .one (.member s) :: _ =>
    if isSettled s then among { s with reading := { case := .exact, asciiOnly } } else unknown
  | _ => unknown

/-- What is known about the start of a match. -/
def ofPattern (p : SearchPattern) : SearchStart :=
  if p.least = 0 then unknown
  else if isLiteral? p.content == some true then literal
  else ofFirst p.asciiOnly p.content

end SearchStart

namespace SearchPattern

/-- The places at which a match may begin. -/
def places (p : SearchPattern) (text : Array Char) : List Nat :=
  if text.size < p.least then []
  else
    match SearchStart.ofPattern p with
    | .unknown => List.range (text.size - (p.least - 1) + 1)
    | .literal => List.range text.size
    | .among s => (List.range text.size).filter fun place => text[place]?.any s.contains

/-- The track of the first match, trying places in turn. -/
def firstMatch? (p : SearchPattern) (text : Array Char) : List Nat → Option Matching.Track
  | [] => none
  | place :: rest =>
    match Matching.matchAt text p.content place with
    | .matched t => some t
    | .failed _ => p.firstMatch? text rest

/-- Whether the pattern matches anywhere in a text. No group of the match may end before its
start. -/
def occursIn (p : SearchPattern) (text : String) : Except PatternFault Bool :=
  let text := text.toList.toArray
  match p.firstMatch? text (p.places text) with
  | none => .ok false
  | some t =>
    if (List.range p.groups).any fun g => (t.ends? (g + 1)).any fun e => e.2 < e.1 then
      .error .groupReversed
    else .ok true

end SearchPattern

end BuildGraph
