import BuildGraph.Text.CharClass

/-!
# Trimming and splitting text

Blanks are cut from the ends of a text, and a text is cut into words at blanks, into lines at
line breaks, or into pieces at one character. The functions work on lists of characters; each has
a form for strings.
-/

namespace BuildGraph.Text

/-- Drops the leading characters that satisfy the test. -/
def dropStart (p : Char → Bool) (cs : List Char) : List Char := cs.dropWhile p

/-- Drops the trailing characters that satisfy the test. -/
def dropEnd (p : Char → Bool) (cs : List Char) : List Char :=
  cs.foldr (fun c rest => if rest.isEmpty && p c then [] else c :: rest) []

/-- Drops blanks at both ends. -/
def trimChars (cs : List Char) : List Char := dropEnd isBlank (dropStart isBlank cs)

/-- Drops blanks at both ends. -/
def trim (s : String) : String := String.ofList (trimChars s.toList)

/-- Drops blanks at the end. -/
def trimRight (s : String) : String := String.ofList (dropEnd isBlank s.toList)

/-- Drops every trailing occurrence of the given characters. -/
def trimRightOf (which : List Char) (s : String) : String :=
  String.ofList (dropEnd (fun c => which.contains c) s.toList)

/-- Whether the text has nothing but blanks. -/
def isBlankText (s : String) : Bool := s.toList.all isBlank

/-- Cuts a text at every occurrence of a character. There is always one piece more than there are
occurrences. -/
def splitChars (sep : Char) : List Char → List (List Char)
  | [] => [[]]
  | c :: rest =>
    if c = sep then [] :: splitChars sep rest
    else match splitChars sep rest with
      | [] => [[c]]
      | piece :: pieces => (c :: piece) :: pieces

/-- Cuts a text at every occurrence of a character. -/
def splitAt (sep : Char) (s : String) : List String :=
  (splitChars sep s.toList).map String.ofList

/-- The maximal runs of characters that are not blank, with `word` the run being read. -/
def wordsFrom (word : List Char) : List Char → List (List Char)
  | [] => if word.isEmpty then [] else [word.reverse]
  | c :: rest =>
    if isBlank c then
      if word.isEmpty then wordsFrom [] rest else word.reverse :: wordsFrom [] rest
    else wordsFrom (c :: word) rest

/-- The words of a text: its maximal runs of characters that are not blank. -/
def words (s : String) : List String := (wordsFrom [] s.toList).map String.ofList

/-- The lines of a text, with `line` the line being read. A carriage return and the line feed
after it end one line together, and a break at the end of the text opens no further line. -/
def linesFrom (line : List Char) : List Char → List (List Char)
  | [] => if line.isEmpty then [] else [line.reverse]
  | '\r' :: '\n' :: rest => line.reverse :: linesFrom [] rest
  | c :: rest =>
    if isLineBreak c then line.reverse :: linesFrom [] rest else linesFrom (c :: line) rest

/-- The lines of a text, without their breaks. -/
def lines (s : String) : List String := (linesFrom [] s.toList).map String.ofList

/-- Whether the first text occurs in the second. -/
def occursIn (part : List Char) : List Char → Bool
  | [] => part.isEmpty
  | c :: rest => part.isPrefixOf (c :: rest) || occursIn part rest

/-- Whether the text contains the given part. -/
def contains (s part : String) : Bool := occursIn part.toList s.toList

/-- Whether the text starts with the given part. -/
def startsWith (s part : String) : Bool := part.toList.isPrefixOf s.toList

/-- Whether the text ends with the given part. -/
def endsWith (s part : String) : Bool := part.toList.isSuffixOf s.toList

/-- The text without its first `n` characters. -/
def drop (n : Nat) (s : String) : String := String.ofList (s.toList.drop n)

/-- The text filled up to the given width with a character at the left. -/
def padLeft (width : Nat) (fill : Char) (s : String) : String :=
  String.ofList (List.replicate (width - s.toList.length) fill ++ s.toList)

end BuildGraph.Text
