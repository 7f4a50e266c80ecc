import BuildGraph.Pattern.Basic

/-!
# Matching a pattern at a place

Matching goes through a pattern from left to right with a list of goals that remain. When a goal
fails, the last choice that was made is made otherwise. A track goes along, in which the place
reached last and the ends of groups are written down. What groups matched in a way that failed is
forgotten where ways are tried in turn.

A place counts as reached when a choice, a repetition or a look around begins there, or where a
match ends. A failure leaves it as it is unless the part that fails goes back. It matters in a
possessive repetition alone: what follows such a repetition begins at the place reached last, also
when a last try, which failed, reached it.

Main definition: `Matching.run`.
-/

namespace BuildGraph.Matching

/-- What is written down during a match. -/
structure Track where
  /-- The place reached last. -/
  place : Nat
  /-- The ends of groups, two for each. -/
  marks : Array (Option Nat) := #[]
  deriving DecidableEq, Repr

namespace Track

/-- The track when another place is reached. -/
def reaching (t : Track) (place : Nat) : Track := { t with place }

/-- Writes down that a mark is at a place. -/
def mark (t : Track) (slot place : Nat) : Track :=
  { t with
    marks := if slot < t.marks.size then t.marks.set! slot (some place)
      else (t.marks ++ Array.replicate (slot - t.marks.size) none).push (some place) }

/-- Goes back to the marks of an earlier track: to all of them, or else just to their number. -/
def restore (t earlier : Track) (whole : Bool) : Track :=
  { t with marks := if whole then earlier.marks else t.marks.shrink earlier.marks.size }

/-- The two ends of a group, if both were written down. -/
def ends? (t : Track) (group : Nat) : Option (Nat × Nat) := do
  let first ← (← t.marks[2 * (group - 1)]?)
  let last ← (← t.marks[2 * (group - 1) + 1]?)
  return (first, last)

/-- What a group matched: its two ends in order. -/
def captured? (t : Track) (group : Nat) : Option (Nat × Nat) :=
  (t.ends? group).filter fun e => e.1 ≤ e.2

end Track

/-- The end of a try to match. -/
inductive Outcome where
  | matched (t : Track)
  | failed (t : Track)

namespace Outcome

/-- After a failure, the place is the given one. -/
def backTo (place : Nat) : Outcome → Outcome
  | matched t => matched t
  | failed t => failed (t.reaching place)

end Outcome

/-- A repetition that is going on. -/
structure Loop where
  eagerness : Eagerness
  least : Nat
  most : Option Nat
  content : Pattern
  /-- How many repetitions were there. -/
  count : Nat := 0
  /-- Where the last repetition began that was not called for. -/
  last : Option Nat := none
  /-- Whether the repetition is inside of another one. -/
  nested : Bool

/-- What remains to be matched. -/
inductive Goal where
  | part (p : PatternPart)
  | mark (slot : Nat)
  /-- The end of one way of a choice. -/
  | join
  /-- The end of one repetition. -/
  | loop (l : Loop)

/-- The goals of a pattern, part by part. -/
def goals (content : Pattern) : List Goal := content.map .part

mutual

/-- The test of a character that a part begins with, where a part that has nothing in it begins
with what follows. -/
def firstOfPart (next : Option CharTest) : PatternPart → Option CharTest
  | .one test => some test
  | .group none content => firstTest next content
  | _ => none

/-- The test of a character that a pattern begins with. -/
def firstTest (next : Option CharTest) : List PatternPart → Option CharTest
  | [] => next
  | part :: rest => firstOfPart (firstTest next rest) part

end

/-- The test of a character that goals begin with. -/
def firstOfGoals : List Goal → Option CharTest
  | .part p :: rest => firstOfPart (firstOfGoals rest) p
  | _ => none

/-- The test that comes first in goals, if it is for a character that stands for itself. -/
def literalFirst? (rest : List Goal) : Option CharTest :=
  (firstOfGoals rest).filter fun test => test.plainLiteral?.isSome

/-- The test that a pattern is, if it is but one. -/
def onlyTest? : List PatternPart → Option CharTest
  | [.one test] => some test
  | [.group none content] => onlyTest? content
  | _ => none

/-- Whether a place is of the given sort. -/
def isAt (text : Array Char) (place : Nat) : Anchor → Bool
  | .start lines => place == 0 || (lines && text[place - 1]? == some '\n')
  | .stop lines =>
    place == text.size || (place + 1 == text.size && text[place]? == some '\n') ||
      (lines && text[place]? == some '\n')
  | .veryEnd => place == text.size
  | .boundary negated asciiOnly =>
    let isWord (c : Option Char) : Bool := c.any fun c => CharProperty.word.holds asciiOnly c
    if text.isEmpty then false
    else ((0 < place && isWord text[place - 1]?) != isWord text[place]?) != negated

/-- Whether there is a character at a place that passes a test. -/
def passes (text : Array Char) (test : CharTest) (place : Nat) : Bool :=
  if h : place < text.size then test.holds text[place] else false

/-- Whether the text goes on at a place with characters that count as the same as those from
`first` on, `count` of them. -/
def goesOn (text : Array Char) (case : CaseRule) (first place : Nat) : (count : Nat) → Bool
  | 0 => true
  | count + 1 =>
    match text[first]?, text[place]? with
    | some c, some d =>
      case.fold c.toNat == case.fold d.toNat && goesOn text case (first + 1) (place + 1) count
    | _, _ => false

/-- How many characters from a place on pass a test, `limit` at most. -/
def countFrom (text : Array Char) (test : CharTest) (place : Nat) : (limit : Nat) → Nat
  | 0 => 0
  | limit + 1 =>
    if passes text test place then countFrom text test (place + 1) limit + 1 else 0

/-- Tries one after the other until one succeeds. After a failure, marks are restored. -/
def tryEach (restore : Track → Track) : List (Track → Outcome) → Track → Outcome
  | [], t => .failed t
  | attempt :: rest, t =>
    match attempt t with
    | .matched u => .matched u
    | .failed u => tryEach restore rest (restore u)

/-- Tries the places from `first + count` down to `first`, but for those that are ruled out. -/
def tryDown (attempt : Nat → Track → Outcome) (allows : Nat → Bool) (restore : Track → Track)
    (first : Nat) : (count : Nat) → Track → Outcome
  | 0, t =>
    if allows first then
      match attempt first t with
      | .matched u => .matched u
      | .failed u => .failed (restore u)
    else .failed t
  | count + 1, t =>
    if allows (first + (count + 1)) then
      match attempt (first + (count + 1)) t with
      | .matched u => .matched u
      | .failed u => tryDown attempt allows restore first count (restore u)
    else tryDown attempt allows restore first count t

/-- Tries a place and then those after it, as long as characters pass a test, `count` of them at
most. -/
def tryUp (attempt : Nat → Track → Outcome) (passes : Nat → Bool) (movesOn : Bool)
    (restore : Track → Track) : (count place : Nat) → Track → Outcome
  | count, place, t =>
    match attempt place t with
    | .matched u => .matched u
    | .failed u =>
      let u := (restore u).reaching place
      if passes place then
        let u := if movesOn then u.reaching (place + 1) else u
        match count with
        | 0 => .failed u
        | count + 1 => tryUp attempt passes movesOn restore count (place + 1) u
      else .failed u

/-- Matches some times over, each time in the first way alone. -/
def repeatExactly (once : Track → Outcome) : (count : Nat) → Track → Outcome
  | 0, t => .matched t
  | count + 1, t =>
    match once t with
    | .matched u => repeatExactly once count u
    | .failed u => .failed u

/-- Matches as often as possible, `count` times at most, each time in the first way alone. `last` is
where the last time began. After a failure, the place reached by it stays. -/
def repeatOn (once : Track → Outcome) : (count : Nat) → (last : Option Nat) → Track → Track
  | 0, _, t => t
  | count + 1, last, t =>
    if last = some t.place then t
    else
      match once t with
      | .matched u => repeatOn once count (some t.place) u
      | .failed u => u.restore t true

/-- Matches what the goals ask for from a place on. `inside` tells whether a repetition is going
on. The first argument after the text bounds the number of goals in a row. -/
def run (text : Array Char) :
    Nat → List Goal → (inside : Bool) → (place : Nat) → Track → Outcome
  | 0, _, _, _, t => .failed t
  | _ + 1, [], _, place, t => .matched (t.reaching place)
  | fuel + 1, .mark slot :: rest, inside, place, t =>
    run text fuel rest inside place (t.mark slot place)
  | fuel + 1, .join :: rest, inside, place, t => run text fuel rest inside place t
  | fuel + 1, .loop l :: rest, _, place, t =>
    let t := t.reaching place
    let more (last : Option Nat) (t : Track) : Outcome :=
      run text fuel (goals l.content ++ .loop { l with count := l.count + 1, last } :: rest) true
        place t
    let onwards (t : Track) : Outcome := run text fuel rest l.nested place t
    if l.count < l.least then (more l.last t).backTo place
    else
      let mayRepeat := l.most.all (l.count < ·) && l.last != some place
      match l.eagerness with
      | .lazy =>
        match onwards t with
        | .matched u => .matched u
        | .failed u =>
          let u := (u.restore t l.nested).reaching place
          if mayRepeat then (more (some place) u).backTo place else .failed u
      | _ =>
        if mayRepeat then
          match more (some place) t with
          | .matched u => .matched u
          | .failed u => (onwards ((u.restore t true).reaching place)).backTo place
        else (onwards t).backTo place
  | fuel + 1, .part p :: rest, inside, place, t =>
    match p with
    | .one test =>
      if passes text test place then run text fuel rest inside (place + 1) t else .failed t
    | .anchor a => if isAt text place a then run text fuel rest inside place t else .failed t
    | .again group case =>
      match t.captured? group with
      | some (first, last) =>
        if goesOn text case first place (last - first) then
          run text fuel rest inside (place + (last - first)) t
        else .failed t
      | none => .failed t
    | .either ways =>
      let open? (way : Pattern) : Bool :=
        match firstTest none way with
        | some test => !test.isPlain || passes text test place
        | none => true
      tryEach (fun u => u.restore t inside)
        ((ways.filter open?).map fun way t =>
          run text fuel (goals way ++ .join :: rest) inside place (t.reaching place)) t
    | .group none content => run text fuel (goals content ++ rest) inside place t
    | .group (some number) content =>
      let slot := 2 * (number - 1)
      run text fuel (.mark slot :: goals content ++ .mark (slot + 1) :: rest) inside place t
    | .atomic content =>
      match run text fuel (goals content) inside place (t.reaching place) with
      | .matched u => run text fuel rest inside u.place u
      | .failed u => .failed (u.reaching place)
    | .look behind negated content =>
      let back := (behind.map Width.least).getD 0
      if place < back then
        if negated then run text fuel rest inside place t else .failed t
      else
        let begin := place - back
        match run text fuel (goals content) inside begin (t.reaching begin), negated with
        | .matched u, false => run text fuel rest inside place u
        | .matched u, true => .failed u
        | .failed u, false => .failed u
        | .failed u, true => run text fuel rest inside place (u.restore t inside)
    | .ifCaptured group yes no =>
      if (t.captured? group).isSome then
        run text fuel (goals yes ++ if no.isEmpty then rest else .join :: rest) inside place t
      else run text fuel (goals no ++ rest) inside place t
    | .repeated eagerness least most content =>
      let remaining := text.size - place
      match onlyTest? content, eagerness with
      | some test, .lazy =>
        if remaining < least then .failed t
        else
          let count := countFrom text test place least
          let t := t.reaching (if test.movesOn then place + count else place)
          if count < least then .failed t
          else
            tryUp (fun q t => run text fuel rest inside q (t.reaching q))
              (passes text test) test.movesOn (fun u => u.restore t inside)
              (most.getD text.size - least) (place + least) t
      | some test, eagerness =>
        if remaining < least then .failed t
        else
          let count := countFrom text test place (min remaining (most.getD remaining))
          let t := t.reaching (if test.movesOn then place + count else place)
          if count < least then .failed t
          else if eagerness = .possessive then
            run text fuel rest inside (place + count) (t.reaching (place + count))
          else
            let next := literalFirst? rest
            tryDown (fun q t => run text fuel rest inside q (t.reaching q))
              (fun q => next.all fun test => passes text test q) (fun u => u.restore t inside)
              (place + least) (count - least) t
      | none, .possessive =>
        let once (t : Track) : Outcome := run text fuel (goals content) inside t.place t
        match repeatExactly once least (t.reaching place) with
        | .failed u => .failed (u.reaching place)
        | .matched u =>
          let u := repeatOn once ((most.map (· - least)).getD (text.size + 2)) none u
          run text fuel rest inside u.place u
      | none, eagerness =>
        run text fuel (.loop { eagerness, least, most, content, nested := inside } :: rest) inside
          place (t.reaching place)

mutual

/-- A bound on the number of goals that a part of a pattern gives rise to in a row, in a text of the
given length. -/
def costOfPart (size : Nat) : PatternPart → Nat
  | .one _ | .anchor _ | .again .. => 1
  | .either ways => 2 + costOfWays size ways
  | .group _ content | .atomic content | .look _ _ content => 3 + cost size content
  | .repeated _ least _ content => 2 + (least + size + 2) * (cost size content + 2)
  | .ifCaptured _ yes no => 2 + cost size yes + cost size no

/-- A bound on the number of goals in a row for a pattern. -/
def cost (size : Nat) : List PatternPart → Nat
  | [] => 1
  | part :: rest => costOfPart size part + cost size rest

/-- A bound on the number of goals in a row for some ways. -/
def costOfWays (size : Nat) : List (List PatternPart) → Nat
  | [] => 0
  | way :: rest => cost size way + costOfWays size rest

end

/-- Matches a pattern from a place on. -/
def matchAt (text : Array Char) (content : Pattern) (place : Nat) : Outcome :=
  run text (cost text.size content + 1) (goals content) false place { place }

end BuildGraph.Matching
