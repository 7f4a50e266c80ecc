import BuildGraph.Document.Basic
import BuildGraph.Model.Node
import BuildGraph.Order.Basic
import BuildGraph.Model.Variable

/-!
# References to variables

A text refers to a variable by `${name}`. References are found from left to right and do not
overlap. Substitution replaces those that have a value, leaves the others as they are, and never
looks at the replaced parts again.

Main definitions: `pieces`, `references`, `substitute`.
-/

namespace BuildGraph

/-- A part of a text. -/
inductive Piece where
  | plain (c : Char)
  | reference (name : List Char)
  deriving DecidableEq, Repr

/-- The name of the reference with which a text starts. -/
def referenceAt? : List Char → Option (List Char)
  | '$' :: '\x7b' :: rest =>
    let name := rest.takeWhile isIdentifierChar
    if name.head?.any isIdentifierStart && (rest.drop name.length).head? == some '\x7d' then
      some name
    else none
  | _ => none

/-- The parts of a text from one of its places on; `skip` characters still belong to the reference
that was found last. -/
def piecesFrom (skip : Nat) : List Char → List Piece
  | [] => []
  | c :: rest =>
    match skip with
    | more + 1 => piecesFrom more rest
    | 0 =>
      match referenceAt? (c :: rest) with
      | some name => .reference name :: piecesFrom (name.length + 2) rest
      | none => .plain c :: piecesFrom 0 rest

/-- The parts of a text. -/
def pieces (text : String) : List Piece := piecesFrom 0 text.toList

/-- The names in the references among some parts. -/
def referencedNames (ps : List Piece) : List String :=
  ps.filterMap fun
    | .plain _ => none
    | .reference name => some (String.ofList name)

/-- The names that a text refers to, in the order of their first use. -/
def references (text : String) : List String := firsts (referencedNames (pieces text))

/-- Whether a text refers to any variable. -/
def hasReferences (text : String) : Bool :=
  (pieces text).any fun
    | .plain _ => false
    | .reference _ => true

/-- The characters of a reference to a name. -/
def referenceChars (name : List Char) : List Char := '$' :: '\x7b' :: (name ++ ['\x7d'])

/-- The reference to a name. -/
def referenceTo (name : String) : String := String.ofList (referenceChars name.toList)

/-- What takes the place of a part of a text. -/
def Piece.replaced (values : Table String String) : Piece → List Char
  | plain c => [c]
  | reference name =>
    match values.get? (String.ofList name) with
    | some value => value.toList
    | none => referenceChars name

/-- A text after substitution, and the names that have no value in the order of their first use. -/
structure Substitution where
  text : String
  unresolved : List String
  deriving DecidableEq, Repr

/-- The names without a value that were met, behind a further part of a text. -/
def Piece.note (values : Table String String) (met : List String) : Piece → List String
  | plain _ => met
  | reference name =>
    let name := String.ofList name
    if values.contains name || met.contains name then met else met ++ [name]

/-- Replaces the references of a text by values. -/
def substitute (text : String) (values : Table String String) : Substitution where
  text := String.ofList ((pieces text).flatMap (Piece.replaced values))
  unresolved := (pieces text).foldl (Piece.note values) []

/-- The values in force of some variables. -/
def effectiveValues (vars : List Variable) : Table String String :=
  Table.ofList (vars.map fun v => (v.name, v.effectiveValue))

mutual

/-- The texts in a document, in order. The names of fields are not among them. -/
def Document.texts : Document → List String
  | .text s => [s]
  | .list items => textsOfItems items
  | .object fields => textsOfFields fields
  | .null | .bool _ | .integer _ | .decimal _ => []

/-- The texts in the items of a list. -/
def textsOfItems : List Document → List String
  | [] => []
  | d :: rest => d.texts ++ textsOfItems rest

/-- The texts in the fields of an object. -/
def textsOfFields : List (String × Document) → List String
  | [] => []
  | (_, d) :: rest => d.texts ++ textsOfFields rest

end

/-- The names that the texts of a document refer to, in the order of their first use. -/
def Document.references (d : Document) : List String :=
  firsts (d.texts.flatMap BuildGraph.references)

/-- The names that the texts of a document refer to and that are not declared. -/
def Document.undeclared (d : Document) (vars : List Variable) : List String :=
  d.references.filter fun name => !(vars.any fun v => v.name == name)

end BuildGraph
