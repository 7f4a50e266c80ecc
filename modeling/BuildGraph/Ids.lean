/-!
# Fresh ids

An `IdGenerator` issues ids that it never issues twice. `next` puts a counter behind a prefix, and
`unique` takes a preferred id, with a number behind it when the id is taken. Ids that are in use
elsewhere are reserved and passed over.
-/

namespace BuildGraph

/-- Issues ids and remembers them. -/
structure IdGenerator where
  /-- The number that the next id carries. -/
  counter : Int := 1
  /-- How a number is written in an id. -/
  label : Int → String := toString
  /-- The ids that were issued or reserved. -/
  issued : List String := []

namespace IdGenerator

/-- Marks ids as taken. -/
def reserve (g : IdGenerator) (ids : List String) : IdGenerator :=
  { g with issued := ids ++ g.issued }

/-- The first of some numbers whose id is free. The first argument is how many more numbers are
tried; there are never more taken ids than tries. -/
def freeNumber (g : IdGenerator) (candidate : Int → String) : Nat → Int → Int
  | 0, n => n
  | tries + 1, n =>
    if candidate n ∈ g.issued then freeNumber g candidate tries (n + 1) else n

/-- Issues an id made of a prefix and the counter. -/
def next (g : IdGenerator) (lead : String) : String × IdGenerator :=
  let candidate (n : Int) := lead ++ "_" ++ g.label n
  let n := g.freeNumber candidate g.issued.length g.counter
  (candidate n, { g with counter := n + 1, issued := candidate n :: g.issued })

/-- Issues the preferred id if it is free, else the first free one with a number from two on behind
it. -/
def unique (g : IdGenerator) (preferred : String) : String × IdGenerator :=
  let id :=
    if preferred ∈ g.issued then
      let candidate (n : Int) := preferred ++ "_" ++ toString n
      candidate (g.freeNumber candidate g.issued.length 2)
    else preferred
  (id, { g with issued := id :: g.issued })

end IdGenerator

end BuildGraph
