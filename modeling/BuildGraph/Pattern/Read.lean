import BuildGraph.Pattern.Escape
import BuildGraph.Text.Identifier

/-!
# Reading patterns

The notation of patterns: characters stand for themselves but for the special ones, a backslash
takes away or gives a special meaning, brackets hold sets, parentheses hold groups, and `*`, `+`,
`?` and braces repeat what is before them. Groups that begin with a question mark look around, hold
flags or name what they match.

What all ways of a choice begin with is matched before the choice, and a choice between single
characters is a set.

Main definition: `SearchPattern.read`.
-/

namespace BuildGraph

open BuildGraph.Text BuildGraph.Number

/-- An item of a sequence: a part, or the parts of a group that is there for the sake of order
alone. -/
inductive PatternItem where
  | single (part : PatternPart)
  | grouped (content : Pattern)

/-- The parts of an item. -/
def PatternItem.parts : PatternItem → Pattern
  | single part => [part]
  | grouped content => content

namespace PatternPart

/-- Whether two parts are the same and hold no pattern inside. -/
def sameAs : PatternPart → PatternPart → Bool
  | one s, one t => s == t
  | anchor a, anchor b => a == b
  | again g c, again h d => g == h && c == d
  | _, _ => false

end PatternPart

namespace Pattern

/-- The members of a way that is a single character or a set. -/
def setMembers? : List PatternPart → Option (List SetMember)
  | [.one (.literal n false _)] => some [.point n]
  | [.one (.member s)] => if s.negated then none else some s.members
  | _ => none

/-- A choice between ways. -/
def choice (reading : CharReading) (ways : List (List PatternPart)) : PatternPart :=
  match ways.mapM setMembers? with
  | some members => .one (.member { members := members.flatten.eraseDups, reading })
  | none => .either ways

/-- A choice between a first way and others, after what all of them begin with. -/
def joinWays (reading : CharReading) : List PatternPart → List (List PatternPart) →
    List PatternPart
  | [], others => [choice reading ([] :: others)]
  | part :: first, others =>
    if others.all fun way => way.head?.any part.sameAs then
      part :: joinWays reading first (others.map List.tail)
    else [choice reading ((part :: first) :: others)]

/-- The pattern of one or several ways. -/
def ofWays (reading : CharReading) : List (List PatternPart) → List PatternPart
  | [] => []
  | [way] => way
  | way :: others => joinWays reading way others

end Pattern

/-- What flags after an opening parenthesis and a question mark do: they hold for all of the
pattern, or they switch some on and some off for a group. -/
inductive FlagUse where
  | global (flags : PatternFlags)
  | scoped (on off : PatternFlags)

/-- What an opening parenthesis begins. -/
inductive Opening where
  | item (i : PatternItem)
  | comment
  | global (flags : PatternFlags)

namespace PatternReader

/-- A number of repetitions. -/
def repetitionCount (digits : List Char) : PatternReader Nat :=
  if maxDigits < digits.length then throw (.integerTooLong digits.length)
  else
    let n := numberOf 10 digits
    if Width.limit ≤ n then throw .repetitionTooLarge else return n

/-- The numbers between braces, after the opening one, or nothing if it stands for itself. -/
def braces : PatternReader (Option (Nat × Option Nat)) := do
  let start := (← get).rest
  if start.head? == some (.plain '\x7d') then return none
  let low ← takeWhile start.length Char.isDigit
  let comma ← accept ','
  let high ← if comma then takeWhile start.length Char.isDigit else pure low
  if !(← accept '\x7d') then
    goTo start
    return none
  let least ← if low.isEmpty then pure 0 else repetitionCount low
  let most ← if high.isEmpty then pure none else (repetitionCount high).map some
  if most.any (· < least) then invalid
  return some (least, most)

/-- The numbers of repetitions that a character asks for. -/
def repetition (c : Char) : PatternReader (Option (Nat × Option Nat)) :=
  if c = '?' then return some (0, some 1)
  else if c = '*' then return some (0, none)
  else if c = '+' then return some (1, none)
  else braces

/-- Repeats the last item of a sequence, the items in reverse. -/
def repeatLast (least : Nat) (most : Option Nat) : List PatternItem →
    PatternReader (List PatternItem)
  | [] | .single (.anchor _) :: _ | .single (.repeated ..) :: _ => invalid
  | item :: before => do
    let repeated (eagerness : Eagerness) : List PatternItem :=
      .single (.repeated eagerness least most item.parts) :: before
    if ← accept '?' then return repeated .lazy
    if ← accept '+' then return repeated .possessive
    return repeated .greedy

/-- Flags by letters, up to one of the given characters. The first argument bounds their number. -/
def flagLetters (ends : List Char) : Nat → Char → PatternFlags →
    PatternReader (PatternFlags × Char)
  | 0, _, _ => invalid
  | fuel + 1, c, found =>
    match PatternFlags.ofLetter? c with
    | none => invalid
    | some flag => do
      let found := found.union flag
      if found.ascii && found.unicode then invalid
      match ← take with
      | .plain next =>
        if next ∈ ends then return (found, next) else flagLetters ends fuel next found
      | _ => invalid

/-- The flags that begin with a character. -/
def flagUse (c : Char) : PatternReader FlagUse := do
  let bound := (← get).rest.length + 1
  let (on, last) ← if c = '-' then pure ({}, '-') else flagLetters [')', '-', ':'] bound c {}
  if last = ')' then return .global on
  if on.template then invalid
  if last = ':' then return .scoped on {}
  match ← take with
  | .plain c =>
    let (off, _) ← flagLetters [':'] bound c {}
    if off.ascii || off.unicode || off.template || on.overlaps off then invalid
    return .scoped on off
  | _ => invalid

/-- Takes the name of a group. -/
def takeGroupName (terminator : Char) : PatternReader String := do
  let cs ← takeName terminator
  if isIdentifier cs then return String.ofList cs else invalid

/-- The group of a name. -/
def groupNamed (name : String) : PatternReader Nat := do
  match (← get).names.find? (·.1 == name) with
  | some (_, group) => return group
  | none => invalid

/-- Opens a group, with a name or without. -/
def openGroup (name : Option String) : PatternReader Nat := do
  let s ← get
  let group := s.groups.length + 1
  match name with
  | none => pure ()
  | some n => if s.names.any (·.1 == n) then invalid
  set { s with
    groups := s.groups ++ [none]
    names := s.names ++ (name.map fun n => (n, group)).toList }
  return group

/-- Closes a group. -/
def closeGroup (group : Nat) (content : Pattern) : PatternReader Unit :=
  modify fun s =>
    { s with groups := s.groups.set (group - 1) (some (Pattern.width s.width content)) }

/-- The least number that no group has. -/
def groupLimit : Nat := 1073741823

/-- The group that a condition asks for. -/
def askedGroup : PatternReader Nat := do
  let cs ← takeName ')'
  let group ←
    if isIdentifier cs then groupNamed (String.ofList cs)
    else
      match readInteger (String.ofList cs) with
      | .ok n =>
        if 0 < n && n < groupLimit then
          modify fun s => { s with asked := n.toNat :: s.asked }
          pure n.toNat
        else invalid
      | .error _ => invalid
  checkLimit group
  return group

/-- The sequence of items that are in reverse. -/
def sequence (items : List PatternItem) : Pattern := items.reverse.flatMap PatternItem.parts

/-- A choice between ways, with the flags in force. -/
def choose (ways : List Pattern) : PatternReader Pattern := do
  return Pattern.ofWays (← get).flags.reading ways

mutual

/-- Alternatives, up to a closing parenthesis or the end. The first argument bounds the depth and
the length of what is read, and `outermost` tells that no group is open. -/
def alternatives : Nat → (outermost : Bool) → PatternReader Pattern
  | 0, _ => invalid
  | fuel + 1, outermost => do
    let first ← items fuel outermost []
    choose (first :: (← moreAlternatives fuel))

/-- Further alternatives. -/
def moreAlternatives : Nat → PatternReader (List Pattern)
  | 0 => invalid
  | fuel + 1 => do
    if ← accept '|' then
      let way ← items fuel false []
      return way :: (← moreAlternatives fuel)
    else return []

/-- The items of a sequence, those before in reverse. `leading` tells that flags for all of the
pattern may come. -/
def items : Nat → (leading : Bool) → List PatternItem → PatternReader Pattern
  | 0, _, _ => invalid
  | fuel + 1, leading, before => do
    match ← peek with
    | none | some .dangling => return sequence before
    | some (.escaped c) =>
      skip
      items fuel leading (.single (← escape c) :: before)
    | some (.plain c) =>
      if c = '|' || c = ')' then return sequence before
      skip
      let flags := (← get).flags
      if flags.verbose && (c == ' ' || (9 ≤ c.toNat && c.toNat ≤ 13)) then
        items fuel leading before
      else if flags.verbose && c == '#' then
        goTo (lineEnd (← get).rest)
        items fuel leading before
      else if c = '[' then items fuel leading (.single (← bracket) :: before)
      else if c = '*' || c = '+' || c = '?' || c = '\x7b' then
        match ← repetition c with
        | some (least, most) => items fuel leading (← repeatLast least most before)
        | none => items fuel leading (.single (← literal c.toNat) :: before)
      else if c = '.' then items fuel leading (.single (.one (.any flags.dotAll)) :: before)
      else if c = '^' then
        items fuel leading (.single (.anchor (.start flags.multiLine)) :: before)
      else if c = '$' then
        items fuel leading (.single (.anchor (.stop flags.multiLine)) :: before)
      else if c = '(' then
        match ← parenthesis fuel with
        | .item item => items fuel leading (item :: before)
        | .comment => items fuel leading before
        | .global flags =>
          if leading && before.isEmpty then
            modify fun s => { s with flags := s.flags.union flags }
            items fuel leading before
          else invalid
      else items fuel leading (.single (← literal c.toNat) :: before)

/-- What an opening parenthesis begins. -/
def parenthesis : Nat → PatternReader Opening
  | 0 => invalid
  | fuel + 1 => do
    if !(← accept '?') then return .item (.single (← capturing fuel none))
    match ← take with
    | .plain c =>
      if c = 'P' then
        if ← accept '<' then
          let name ← takeGroupName '>'
          return .item (.single (← capturing fuel (some name)))
        expect '='
        let group ← groupNamed (← takeGroupName ')')
        return .item (.single (← groupAgain group))
      else if c = ':' then return .item (.grouped (← enclosed fuel))
      else if c = '>' then return .item (.single (.atomic (← enclosed fuel)))
      else if c = '#' then
        match (← get).rest.dropWhile (· != .plain ')') with
        | _ :: rest =>
          goTo rest
          return .comment
        | [] => invalid
      else if c = '=' then return .item (.single (.look none false (← enclosed fuel)))
      else if c = '!' then return .item (.single (.look none true (← enclosed fuel)))
      else if c = '<' then
        let sign ← take
        if sign != .plain '=' && sign != .plain '!' then invalid
        return .item (.single (← lookBehind fuel (sign == .plain '!')))
      else if c = '(' then
        let group ← askedGroup
        let yes ← items fuel false []
        let no ← if ← accept '|' then items fuel false [] else pure []
        expect ')'
        return .item (.single (.ifCaptured group yes no))
      else
        match ← flagUse c with
        | .global flags => return .global flags
        | .scoped on off =>
          let content ← withFlags ((← get).flags.switch on off) (enclosed fuel)
          return .item (.single (.group none content))
    | _ => invalid

/-- The inside of a group. -/
def inner : Nat → PatternReader Pattern
  | 0 => invalid
  | fuel + 1 => alternatives fuel false

/-- The inside of a group and the parenthesis after it. -/
def enclosed : Nat → PatternReader Pattern
  | 0 => invalid
  | fuel + 1 => do
    let content ← inner fuel
    expect ')'
    return content

/-- A look behind, up to its closing parenthesis. It does not refer to groups inside of itself. -/
def lookBehind : Nat → (negated : Bool) → PatternReader PatternPart
  | 0, _ => invalid
  | fuel + 1, negated => do
    let outer := (← get).limit
    modify fun s => { s with limit := outer.or (some s.groups.length) }
    let content ← inner fuel
    modify fun s => { s with limit := outer }
    expect ')'
    return .look (some (Pattern.width (← get).width content)) negated content

/-- A group that remembers what it matches. -/
def capturing : Nat → Option String → PatternReader PatternPart
  | 0, _ => invalid
  | fuel + 1, name => do
    let group ← openGroup name
    let content ← enclosed fuel
    closeGroup group content
    return .group (some group) content

end

end PatternReader

/-- A pattern that is ready to be searched for. -/
structure SearchPattern where
  content : Pattern
  /-- The number of groups that remember what they matched. -/
  groups : Nat
  /-- The least length of what the pattern matches. -/
  least : Nat
  /-- Whether the flags for all of the pattern restrict properties to ASCII characters. -/
  asciiOnly : Bool

namespace SearchPattern

open PatternReader in
/-- Reads a pattern. -/
def read (text : String) : Except PatternFault SearchPattern := do
  let signs := Sign.ofChars text.toList
  let (content, s) ← (do goTo signs; alternatives (8 * signs.length + 8) true).run {}
  if s.flags.ascii && s.flags.unicode then throw .flagsIncompatible
  if !s.rest.isEmpty then throw .invalid
  if s.asked.any (s.groups.length < ·) then throw .invalid
  if s.flags.template && Pattern.has PatternPart.isRepeated content then throw .invalid
  if Pattern.has PatternPart.looksBehindLoosely content then throw .invalid
  if Pattern.has PatternPart.looksTooFar content then throw .looksTooFar
  return {
    content
    groups := s.groups.length
    least := (Pattern.width s.width content).least
    asciiOnly := s.flags.ascii }

end SearchPattern

end BuildGraph
