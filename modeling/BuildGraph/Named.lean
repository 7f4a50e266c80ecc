/-!
# Closed vocabularies

The kinds, operators, levels and statuses of this library are closed sets whose members have a
name in documents and scripts. `Named` lists the members with their names, and `Named.ofName?`
finds the member of a name.
-/

namespace BuildGraph

/-- A closed set whose members have names. -/
class Named (α : Type) where
  /-- What messages call the set. -/
  title : String
  /-- The members in order. -/
  all : List α
  /-- The name of a member. -/
  name : α → String

/-- The name of a member of a closed set. -/
def nameOf {α : Type} [Named α] (a : α) : String := Named.name a

/-- The member with the given name. -/
def ofName? {α : Type} [Named α] (s : String) : Option α :=
  (Named.all : List α).find? fun a => Named.name a == s

end BuildGraph
