import BuildGraph.Text.Split

/-!
# Tables of character names

The character database gives characters names of words, such as `DIGIT ONE`. Neighbours share
words with one another, so a table holds runs of consecutive code points, and within a run each
name but for the words that it shares with the name before it.

Main definition: `NameRun.find?`.
-/

namespace BuildGraph.Text

/-- The names of consecutive code points, some in each line. Each name follows a small letter that
tells how many words it keeps of the name before it: none for `a`, one for `b`, and so on. -/
structure NameRun where
  first : Nat
  lines : List String

/-- The names of a line in short: the number of words that are kept, and the words that follow. -/
def entriesOfLine (line : String) : List (Nat × List (List Char)) :=
  (line.toList.foldr (fun c (tail, entries) =>
    if c.isLower then ([], (c.toNat - 97, splitChars ' ' tail) :: entries)
    else (c :: tail, entries)) ([], [])).2

/-- The names of a run in short. -/
def NameRun.entries (r : NameRun) : List (Nat × List (List Char)) := r.lines.flatMap entriesOfLine

/-- Looks for a name, given by its words, among the entries from a code point on. `previous` is
the name before them. -/
def findEntry (sought : List (List Char)) (point : Nat) (previous : List (List Char)) :
    List (Nat × List (List Char)) → Option Nat
  | [] => none
  | (kept, words) :: rest =>
    let name := previous.take kept ++ words
    if name == sought then some point else findEntry sought (point + 1) name rest

/-- The code point of a run that has the given name. -/
def NameRun.find? (r : NameRun) (name : List (List Char)) : Option Nat :=
  findEntry name r.first [] r.entries

end BuildGraph.Text
