import BuildGraph.Pattern.Basic

/-!
# Flags of patterns

Letters in a pattern set flags, for all of it or for the inside of a group. They tell whether case
matters, what a line is, whether a point stands for line feeds too, whether blanks and comments are
passed over, and which characters are letters, digits and blanks.
-/

namespace BuildGraph

/-- What the flags of a pattern change. -/
structure PatternFlags where
  ignoreCase : Bool := false
  multiLine : Bool := false
  dotAll : Bool := false
  /-- Blanks and comments of the notation are passed over. -/
  verbose : Bool := false
  ascii : Bool := false
  unicode : Bool := false
  /-- Nothing may be repeated. -/
  template : Bool := false
  deriving DecidableEq, Repr

namespace PatternFlags

/-- How characters are looked at. -/
def reading (f : PatternFlags) : CharReading where
  case := if !f.ignoreCase then .exact else if f.ascii then .ascii else .unicode
  asciiOnly := f.ascii

/-- The flags of a letter. -/
def ofLetter? (c : Char) : Option PatternFlags :=
  if c = 'i' then some { ignoreCase := true }
  else if c = 'm' then some { multiLine := true }
  else if c = 's' then some { dotAll := true }
  else if c = 'x' then some { verbose := true }
  else if c = 'a' then some { ascii := true }
  else if c = 'u' then some { unicode := true }
  else if c = 't' then some { template := true }
  else none

/-- The flags of either. -/
def union (f g : PatternFlags) : PatternFlags where
  ignoreCase := f.ignoreCase || g.ignoreCase
  multiLine := f.multiLine || g.multiLine
  dotAll := f.dotAll || g.dotAll
  verbose := f.verbose || g.verbose
  ascii := f.ascii || g.ascii
  unicode := f.unicode || g.unicode
  template := f.template || g.template

/-- Whether any flag is in both. -/
def overlaps (f g : PatternFlags) : Bool :=
  (f.ignoreCase && g.ignoreCase) || (f.multiLine && g.multiLine) || (f.dotAll && g.dotAll) ||
    (f.verbose && g.verbose)

/-- The flags inside of a group that switches some on and some off. -/
def switch (f on off : PatternFlags) : PatternFlags where
  ignoreCase := (f.ignoreCase || on.ignoreCase) && !off.ignoreCase
  multiLine := (f.multiLine || on.multiLine) && !off.multiLine
  dotAll := (f.dotAll || on.dotAll) && !off.dotAll
  verbose := (f.verbose || on.verbose) && !off.verbose
  ascii := if on.ascii || on.unicode then on.ascii else f.ascii
  unicode := if on.ascii || on.unicode then on.unicode else f.unicode
  template := f.template

end PatternFlags

end BuildGraph
