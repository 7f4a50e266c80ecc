import BuildGraph.Number.Integer
import BuildGraph.Text.CharName.Aliases
import BuildGraph.Text.CharName.Alphabets
import BuildGraph.Text.CharName.EastAsian
import BuildGraph.Text.CharName.Historic
import BuildGraph.Text.CharName.Pictographs
import BuildGraph.Text.CharName.Symbols

/-!
# Characters by name

A name stands for at most one character. Most names are in tables and may be written in capital or
small letters. Some are made by rule: ideographs are numbered, and the name of a Hangul syllable is
put together from its sounds. The two great families of these, the unified ideographs and the
Hangul syllables, are known in capital letters only.

Main definition: `pointNamed?`.
-/

namespace BuildGraph.Text

open BuildGraph.Number

/-- Characters named by a common beginning and their code points in hexadecimal. -/
structure NumberedNames where
  lead : String
  ranges : List (Nat × Nat)

/-- Whether a code point is in one of the ranges, whose ends are included. -/
def inRanges (ranges : List (Nat × Nat)) (n : Nat) : Bool :=
  ranges.any fun r => r.1 ≤ n && n ≤ r.2

/-- The numbered names that may be written in small letters. -/
def numberedNames : List NumberedNames := [
  ⟨"CJK COMPATIBILITY IDEOGRAPH-", [(0xF900, 0xFA6D), (0xFA70, 0xFAD9), (0x2F800, 0x2FA1D)]⟩,
  ⟨"KHITAN SMALL SCRIPT CHARACTER-", [(0x18B00, 0x18CD5)]⟩,
  ⟨"NUSHU CHARACTER-", [(0x1B170, 0x1B2FB)]⟩]

/-- The unified ideographs. -/
def unifiedIdeographs : NumberedNames where
  lead := "CJK UNIFIED IDEOGRAPH-"
  ranges := [(0x3400, 0x4DBF), (0x4E00, 0x9FFF), (0x20000, 0x2A6DF), (0x2A700, 0x2B738),
    (0x2B740, 0x2B81D), (0x2B820, 0x2CEA1), (0x2CEB0, 0x2EBE0), (0x30000, 0x3134A)]

/-- The number that capital hexadecimal digits stand for. -/
def capitalHexadecimal? (cs : List Char) : Option Nat :=
  if cs.all fun c => c.isDigit || ('A' ≤ c && c ≤ 'F') then
    some (ofDigits 16 (cs.filterMap (digitIn? 16)))
  else none

/-- The code point that a numbered name stands for. -/
def NumberedNames.find? (family : NumberedNames) (name : List Char) : Option Nat := do
  let digits ← family.lead.toList.isPrefixOf? name
  let n ← capitalHexadecimal? digits
  if inRanges family.ranges n && digits.length = (if n < 0x10000 then 4 else 5) then some n
  else none

/-- The code point of a unified ideograph. Four or five digits follow, of which the first may be
zero. -/
def ideographNamed? (digits : List Char) : Option Nat := do
  let n ← capitalHexadecimal? digits
  if inRanges unifiedIdeographs.ranges n && (digits.length = 4 || digits.length = 5) then some n
  else none

/-- The consonants that begin a Hangul syllable. -/
def hangulInitials : List String := [
  "G", "GG", "N", "D", "DD", "R", "M", "B", "BB", "S", "SS", "", "J", "JJ", "C", "K", "T", "P",
  "H"]

/-- The vowels of Hangul syllables. -/
def hangulVowels : List String := [
  "A", "AE", "YA", "YAE", "EO", "E", "YEO", "YE", "O", "WA", "WAE", "OE", "YO", "U", "WEO", "WE",
  "WI", "YU", "EU", "YI", "I"]

/-- The consonants that end a Hangul syllable. -/
def hangulFinals : List String := [
  "", "G", "GG", "GS", "N", "NJ", "NH", "D", "L", "LG", "LM", "LB", "LS", "LT", "LP", "LH", "M",
  "B", "BS", "S", "SS", "NG", "J", "C", "K", "T", "P", "H"]

/-- The longest of some sounds that a text begins with: its number and the rest of the text. -/
def takeSound (sounds : List String) (cs : List Char) : Option (Nat × List Char) :=
  sounds.zipIdx.foldl (fun best (sound, number) =>
    match sound.toList.isPrefixOf? cs, best with
    | some rest, some (_, shortest) =>
      if rest.length < List.length shortest then some (number, rest) else best
    | some rest, none => some (number, rest)
    | none, _ => best) none

/-- The code point of the Hangul syllable with the given sounds. -/
def syllableNamed? (sounds : List Char) : Option Nat := do
  let (initial, rest) ← takeSound hangulInitials sounds
  let (vowel, rest) ← takeSound hangulVowels rest
  let (final, rest) ← takeSound hangulFinals rest
  if rest.isEmpty then
    some (0xAC00 + (initial * hangulVowels.length + vowel) * hangulFinals.length + final)
  else none

/-- The code point of a variation selector, by its abbreviation. -/
def selectorNamed? (name : List Char) : Option Nat :=
  ((List.range 256).find? fun n => ("VS" ++ toString (n + 1)).toList == name).map fun n =>
    if n < 16 then 0xFE00 + n else 0xE0100 + (n - 16)

/-- All tables of names. -/
def nameTables : List (List NameRun) :=
  [alphabetNames, symbolNames, eastAsianNames, historicNames, pictographNames]

/-- The code point of a name in capital letters, if unified ideographs and Hangul syllables are left
out. -/
def tabledPoint? (name : List Char) : Option Nat :=
  let words := splitChars ' ' name
  ((furtherNames.find? fun entry => entry.2.toList == name).map Prod.fst).or
    ((selectorNamed? name).or
      ((numberedNames.findSome? fun family => family.find? name).or
        (nameTables.findSome? fun table => table.findSome? fun run => run.find? words)))

/-- The code point of the character with a given name. -/
def pointNamed? (name : List Char) : Option Nat :=
  match "HANGUL SYLLABLE ".toList.isPrefixOf? name,
      unifiedIdeographs.lead.toList.isPrefixOf? name with
  | some sounds, _ => syllableNamed? sounds
  | none, some digits => ideographNamed? digits
  | none, none => tabledPoint? (name.map Char.toUpper)

end BuildGraph.Text
