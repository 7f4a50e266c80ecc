import BuildGraph.Text.CharClass

/-!
# Lower case

The lower-case form of a text. Two characters need more than the mapping of single characters:
the dotted capital I becomes two characters, and a capital sigma at the end of a word becomes the
final form of the letter.
-/

namespace BuildGraph.Text

/-- Whether the first character that is not skipped is a cased letter. -/
def leadsWithCased (cs : List Char) : Bool :=
  match cs.dropWhile isCaseIgnorable with
  | [] => false
  | c :: _ => isCased c

/-- The lower-case form of a text, where `before` holds the characters already read, the last one
first. -/
def lowerFrom (before : List Char) : List Char → List Char
  | [] => []
  | c :: rest =>
    let low :=
      if c = 'Σ' then
        [if leadsWithCased before && !leadsWithCased rest then 'ς' else 'σ']
      else if c = 'İ' then ['i', '\u0307']
      else [lowerChar c]
    low ++ lowerFrom (c :: before) rest

/-- The lower-case form of a text. -/
def lower (s : String) : String := String.ofList (lowerFrom [] s.toList)

end BuildGraph.Text
