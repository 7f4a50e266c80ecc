import BuildGraph.Document.Basic
import BuildGraph.Number.Binary64

/-!
# Documents as JSON text

`Document.parse?` reads a JSON text and keeps the order of the fields; `Document.render` writes one
with plain ASCII characters. A number with a point or an exponent is a decimal.
-/

namespace BuildGraph.Document

open BuildGraph.Number BuildGraph.Text

/-- Drops the blanks that may stand between the parts of a text. -/
def skipBlanks (cs : List Char) : List Char :=
  cs.dropWhile fun c => c == ' ' || c == '\n' || c == '\t' || c == '\r'

/-- The number that four hexadecimal digits give. -/
def codeUnit? (a b c d : Char) : Option Nat :=
  match digitIn? 16 a, digitIn? 16 b, digitIn? 16 c, digitIn? 16 d with
  | some a, some b, some c, some d => some (((a * 16 + b) * 16 + c) * 16 + d)
  | _, _, _, _ => none

/-- Reads a string after its opening quote, up to and with the closing one. -/
def readString : List Char → Option (List Char × List Char)
  | [] => none
  | '"' :: rest => some ([], rest)
  | '\\' :: 'u' :: a :: b :: c :: d :: '\\' :: 'u' :: e :: f :: g :: h :: rest =>
    match codeUnit? a b c d, codeUnit? e f g h with
    | some high, some low =>
      if 0xd800 ≤ high && high < 0xdc00 && 0xdc00 ≤ low && low < 0xe000 then
        (readString rest).map fun s =>
          (Char.ofNat (0x10000 + (high - 0xd800) * 0x400 + (low - 0xdc00)) :: s.1, s.2)
      else
        (readString ('\\' :: 'u' :: e :: f :: g :: h :: rest)).map fun s =>
          (Char.ofNat high :: s.1, s.2)
    | _, _ => none
  | '\\' :: 'u' :: a :: b :: c :: d :: rest =>
    match codeUnit? a b c d with
    | some n => (readString rest).map fun s => (Char.ofNat n :: s.1, s.2)
    | none => none
  | '\\' :: c :: rest =>
    let plain := if c = 'n' then '\n' else if c = 'r' then '\r' else if c = 't' then '\t'
      else if c = 'b' then '\x08' else if c = 'f' then '\x0c' else c
    (readString rest).map fun s => (plain :: s.1, s.2)
  | c :: rest => (readString rest).map fun s => (c :: s.1, s.2)

/-- Whether the character may stand in a number. -/
def isNumberChar (c : Char) : Bool :=
  c.isDigit || c == '-' || c == '+' || c == '.' || c == 'e' || c == 'E'

/-- The number that a numeral denotes. -/
def readNumber? (cs : List Char) : Option Document :=
  let (negative, body) := takeSign cs
  let (whole, tail) := plainDigits body
  if whole.isEmpty then none
  else if tail.isEmpty then some (.integer (signed negative (ofDigits 10 whole)))
  else
    let (part, last) := match tail with
      | '.' :: more => plainDigits more
      | _ => ([], tail)
    (readExponent? last).map fun e =>
      let places : Int := e - (part.length : Int)
      .decimal (Binary64.ofDecimal negative (whole ++ part) places)

/-- A given text at the front, and the rest. -/
def takeWord (word : String) (value : Document) (cs : List Char) : Option (Document × List Char) :=
  if word.toList.isPrefixOf cs then some (value, cs.drop word.length) else none

mutual

/-- Reads a value. The first argument bounds the depth and the length of what is read. -/
def readValue : Nat → List Char → Option (Document × List Char)
  | 0, _ => none
  | fuel + 1, cs =>
    match skipBlanks cs with
    | [] => none
    | c :: rest =>
      if c = '"' then (readString rest).map fun s => (.text (String.ofList s.1), s.2)
      else if c = '[' then
        match skipBlanks rest with
        | ']' :: after => some (.list [], after)
        | inner => (readItems fuel inner).map fun r => (.list r.1, r.2)
      else if c = '\x7b' then
        match skipBlanks rest with
        | '\x7d' :: after => some (.object [], after)
        | inner => (readFields fuel inner).map fun r => (.object r.1, r.2)
      else if c = 't' then takeWord "true" (.bool true) (c :: rest)
      else if c = 'f' then takeWord "false" (.bool false) (c :: rest)
      else if c = 'n' then takeWord "null" .null (c :: rest)
      else
        let numeral := (c :: rest).takeWhile isNumberChar
        (readNumber? numeral).map fun n => (n, (c :: rest).drop numeral.length)

/-- Reads the items of a list up to and with its end. -/
def readItems : Nat → List Char → Option (List Document × List Char)
  | 0, _ => none
  | fuel + 1, cs =>
    match readValue fuel cs with
    | none => none
    | some (d, rest) =>
      match skipBlanks rest with
      | ',' :: more => (readItems fuel more).map fun r => (d :: r.1, r.2)
      | ']' :: more => some ([d], more)
      | _ => none

/-- Reads the fields of an object up to and with its end. -/
def readFields : Nat → List Char → Option (List (String × Document) × List Char)
  | 0, _ => none
  | fuel + 1, cs =>
    match skipBlanks cs with
    | '"' :: rest =>
      match readString rest with
      | none => none
      | some (key, rest) =>
        match skipBlanks rest with
        | ':' :: rest =>
          match readValue fuel rest with
          | none => none
          | some (d, rest) =>
            match skipBlanks rest with
            | ',' :: more =>
              (readFields fuel more).map fun r => ((String.ofList key, d) :: r.1, r.2)
            | '\x7d' :: more => some ([(String.ofList key, d)], more)
            | _ => none
        | _ => none
    | _ => none

end

/-- Reads a JSON text. -/
def parse? (text : String) : Option Document :=
  let cs := text.toList
  match readValue (cs.length + 1) cs with
  | some (d, rest) => if (skipBlanks rest).isEmpty then some d else none
  | none => none

/-- A code unit as it is escaped. -/
def escapeUnit (n : Nat) : String := "\\u" ++ String.ofList (hexDigits 4 n)

/-- Writes a character of a string behind a text. -/
def pushChar (out : String) (c : Char) : String :=
  let n := c.toNat
  if c = '"' || c = '\\' then (out.push '\\').push c
  else if 0x20 ≤ n && n < 0x7f then out.push c
  else if n < 0x10000 then out ++ escapeUnit n
  else out ++ escapeUnit (0xd800 + (n - 0x10000) / 0x400) ++
    escapeUnit (0xdc00 + (n - 0x10000) % 0x400)

/-- Writes a string behind a text. -/
def pushString (out : String) (s : String) : String :=
  (s.toList.foldl pushChar (out.push '"')).push '"'

/-- A decimal with all its places; there are at most as many as its denominator has binary
digits. -/
def decimalText : Binary64 → String
  | .finite r =>
    let places := r.den.log2 + 1
    let scale := Nat.pow 10 places
    let n := r.num.natAbs * scale / r.den
    (if r.num < 0 then "-" else "") ++ toString (n / scale) ++ "." ++
      padLeft places '0' (toString (n % scale))
  | .infinite negative => if negative then "-Infinity" else "Infinity"
  | .notANumber => "NaN"

mutual

/-- Writes a value behind a text. -/
def push (out : String) : Document → String
  | null => out ++ "null"
  | bool b => out ++ if b then "true" else "false"
  | integer n => out ++ toString n
  | decimal x => out ++ decimalText x
  | text s => pushString out s
  | list items => (pushItems (out.push '[') true items).push ']'
  | object fields => (pushFields (out.push '\x7b') true fields).push '\x7d'

/-- Writes items, with a comma before each but the first. -/
def pushItems (out : String) (first : Bool) : List Document → String
  | [] => out
  | d :: rest => pushItems (push (if first then out else out.push ',') d) false rest

/-- Writes fields, with a comma before each but the first. -/
def pushFields (out : String) (first : Bool) : List (String × Document) → String
  | [] => out
  | (key, d) :: rest =>
    let out := pushString (if first then out else out.push ',') key
    pushFields (push (out.push ':') d) false rest

end

/-- The JSON text of a document. -/
def render (d : Document) : String := push "" d

end BuildGraph.Document
