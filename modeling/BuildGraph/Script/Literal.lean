import BuildGraph.Number.Integer
import BuildGraph.Text.Quoted

/-!
# String literals

A string literal stands between double quotes. Backslash, quote, dollar sign and control characters
are escaped when one is written, so that a literal never starts a template. `bodyOf` reads the
inside of a literal or of a character literal; it accepts more than is written.
-/

namespace BuildGraph.Script

open BuildGraph.Text BuildGraph.Number

/-- One character as it stands in a literal. -/
def escapeChar (c : Char) : List Char :=
  if c = '\\' then ['\\', '\\']
  else if c = '"' then ['\\', '"']
  else if c = '$' then ['\\', '$']
  else if c = '\n' then ['\\', 'n']
  else if c = '\r' then ['\\', 'r']
  else if c = '\t' then ['\\', 't']
  else if c.toNat < 0x20 || c.toNat == 0x7f then '\\' :: 'u' :: hexDigits 4 c.toNat
  else [c]

/-- A text as it stands in a literal, as characters. -/
def escapeChars (cs : List Char) : List Char := cs.flatMap escapeChar

/-- A text as it stands in a literal. -/
def escape (s : String) : String := String.ofList (escapeChars s.toList)

/-- The literal of a text, as characters. -/
def quoteChars (s : String) : List Char := '"' :: (escapeChars s.toList ++ ['"'])

/-- The literal of a text. -/
def quote (s : String) : String := String.ofList (quoteChars s)

/-- The literals of texts, separated by commas. -/
def quoteAll (ss : List String) : String := String.intercalate ", " (ss.map quote)

/-- The character that a letter after a backslash stands for. Any other character stands for
itself. -/
def unescapeChar (c : Char) : Char :=
  if c = 'n' then '\n'
  else if c = 'r' then '\r'
  else if c = 't' then '\t'
  else if c = 'b' then '\x08'
  else c

/-- The character whose number four characters give. -/
def numberedChar? (a b c d : Char) : Option Char :=
  match readHexadecimal? (String.ofList [a, b, c, d]) with
  | some (.ofNat n) => if h : n.isValidChar then some (Char.ofNatAux n h) else some '\ufffd'
  | _ => none

/-- What was read of a literal after its opening quote. -/
structure LiteralBody where
  /-- The text that the literal denotes. -/
  value : List Char
  /-- How many characters were read, the closing quote among them. -/
  length : Nat
  /-- Whether a template starts in the literal. -/
  template : Bool
  /-- Whether the closing quote was found on the line. -/
  closed : Bool
  deriving DecidableEq, Repr

/-- A literal with one more character in front, read from a number of characters. -/
def LiteralBody.push (c : Char) (count : Nat) (b : LiteralBody) : LiteralBody :=
  { b with value := c :: b.value, length := b.length + count }

/-- Whether a template starts with a dollar sign before the given characters. -/
def startsTemplate : List Char → Bool
  | [] => false
  | c :: _ => c == '\x7b' || isLetter c || c == '_'

/-- Reads a literal after its opening quote, up to the quote or the end of the line. The quote is
no backslash. -/
def bodyOf (quote : Char) : List Char → LiteralBody
  | [] => ⟨[], 0, false, false⟩
  | '\\' :: 'u' :: a :: b :: c :: d :: rest =>
    match numberedChar? a b c d with
    | some x => (bodyOf quote rest).push x 6
    | none => (bodyOf quote (a :: b :: c :: d :: rest)).push 'u' 2
  | '\\' :: c :: rest =>
    (bodyOf quote rest).push (unescapeChar c) 2
  | c :: rest =>
    if c = quote then ⟨[], 1, false, true⟩
    else if c = '\n' then ⟨[], 0, false, false⟩
    else
      let more := bodyOf quote rest
      { more.push c 1 with template := more.template || (c == '$' && startsTemplate rest) }

end BuildGraph.Script
