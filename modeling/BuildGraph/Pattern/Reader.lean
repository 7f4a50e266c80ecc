import BuildGraph.Pattern.Fault
import BuildGraph.Pattern.Flags

/-!
# Signs and steps of reading patterns

The signs of the notation are characters, alone or after a backslash. A reader goes through them
from left to right and keeps the flags in force and what it knows about groups. A backslash at the
end of the text is refused when it becomes the next sign, so that an earlier mistake is found
before it.
-/

namespace BuildGraph

/-- A sign of the notation: a character, or one with a backslash before it, or a backslash that
nothing follows. -/
inductive Sign where
  | plain (c : Char)
  | escaped (c : Char)
  | dangling
  deriving DecidableEq, Repr

/-- The signs of a text. -/
def Sign.ofChars : List Char → List Sign
  | [] => []
  | ['\\'] => [dangling]
  | '\\' :: c :: rest => escaped c :: ofChars rest
  | c :: rest => plain c :: ofChars rest

/-- What is known while a pattern is read. -/
structure PatternScope where
  rest : List Sign := []
  flags : PatternFlags := {}
  /-- The widths of the groups from one on, those that are open without one. -/
  groups : List (Option Width) := []
  names : List (String × Nat) := []
  /-- Inside of a look behind, how many groups were there before it. -/
  limit : Option Nat := none
  /-- The groups that conditions ask for by number. -/
  asked : List Nat := []

namespace PatternScope

/-- The width of a group that was closed. -/
def closedWidth? (s : PatternScope) (group : Nat) : Option Width :=
  s.groups[group - 1]?.bind id

/-- The width of a group, nothing for one that is open. -/
def width (s : PatternScope) (group : Nat) : Width := (s.closedWidth? group).getD ⟨0, some 0⟩

end PatternScope

/-- A step of reading. -/
abbrev PatternReader := StateT PatternScope (Except PatternFault)

namespace PatternReader

/-- Stops because the text is no pattern. -/
def invalid {α : Type} : PatternReader α := throw .invalid

/-- Goes on at the given signs. -/
def goTo (rest : List Sign) : PatternReader Unit := do
  if rest.head? == some .dangling then invalid
  modify fun s => { s with rest }

/-- The next sign, if there is one. -/
def peek : PatternReader (Option Sign) := do return (← get).rest.head?

/-- Passes over the next sign. -/
def skip : PatternReader Unit := do goTo ((← get).rest.drop 1)

/-- Takes the next sign. There has to be one. -/
def take : PatternReader Sign := do
  match ← peek with
  | some sign => skip; return sign
  | none => invalid

/-- Takes the next sign if it is the given character. -/
def accept (c : Char) : PatternReader Bool := do
  if (← peek) == some (.plain c) then skip; return true else return false

/-- Takes the given character, which has to be next. -/
def expect (c : Char) : PatternReader Unit := do
  if !(← accept c) then invalid

/-- The characters at the front that pass a test, at most some of them. -/
def leading (test : Char → Bool) : Nat → List Sign → List Char
  | count + 1, .plain c :: rest => if test c then c :: leading test count rest else []
  | _, _ => []

/-- Takes at most some characters that pass a test. -/
def takeWhile (count : Nat) (test : Char → Bool) : PatternReader (List Char) := do
  let s ← get
  let cs := leading test count s.rest
  goTo (s.rest.drop cs.length)
  return cs

/-- The characters before a terminator, and the signs after it. A backslash counts as one. -/
def splitName (terminator : Char) : List Sign → Option (List Char × List Sign)
  | [] | .dangling :: _ => none
  | .plain c :: rest =>
    if c = terminator then some ([], rest)
    else (splitName terminator rest).map fun r => (c :: r.1, r.2)
  | .escaped c :: rest => (splitName terminator rest).map fun r => ('\\' :: c :: r.1, r.2)

/-- Takes a name up to and with a terminator. It has at least one character. -/
def takeName (terminator : Char) : PatternReader (List Char) := do
  match splitName terminator (← get).rest with
  | some (c :: name, rest) =>
    goTo rest
    return c :: name
  | _ => invalid

/-- Passes over a comment up to the end of the line. -/
def lineEnd : List Sign → List Sign
  | [] => []
  | .dangling :: rest => .dangling :: rest
  | sign :: rest => if sign = .plain '\n' then rest else lineEnd rest

/-- Reads with other flags and comes back to the present ones. -/
def withFlags {α : Type} (flags : PatternFlags) (reader : PatternReader α) : PatternReader α := do
  let outer := (← get).flags
  modify fun s => { s with flags }
  let a ← reader
  modify fun s => { s with flags := outer }
  return a

end PatternReader

end BuildGraph
