import BuildGraph.Number.Integer

/-!
# Faults of patterns

Most texts that are no patterns are just `invalid`, and as such they match nothing. The other faults
stop what asks for the pattern: numbers that are too large, flags that exclude one another, looks
too far behind, and a match that leaves a group with its end before its start.
-/

namespace BuildGraph

open BuildGraph.Number

/-- Why a pattern cannot be read, or cannot be searched for. -/
inductive PatternFault where
  | invalid
  | repetitionTooLarge
  | flagsIncompatible
  | integerTooLong (digits : Nat)
  | looksTooFar
  | groupReversed
  deriving DecidableEq, Repr

/-- The words for a fault. -/
def PatternFault.message : PatternFault → String
  | invalid => "invalid pattern"
  | repetitionTooLarge => "the repetition number is too large"
  | flagsIncompatible => "ASCII and UNICODE flags are incompatible"
  | integerTooLong digits => (IntegerStop.mk "" (.tooLong digits)).message
  | looksTooFar => "invalid SRE code"
  | groupReversed =>
    "The span of capturing group is wrong, please report a bug for the re module."

end BuildGraph
