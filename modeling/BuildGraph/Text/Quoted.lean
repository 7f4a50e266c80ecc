import BuildGraph.Text.CharClass

/-!
# Quoted display of a text

Messages show a text between single quotes, or between double quotes when it holds a single quote
and no double quote. A backslash and the quote in use are escaped, line feed, carriage return and
tab have letters, and any other character that cannot be printed is shown by its number.
-/

namespace BuildGraph.Text

/-- The digit of a hexadecimal number, in lower case. -/
def hexDigit (n : Nat) : Char :=
  if n < 10 then Char.ofNat (48 + n) else Char.ofNat (87 + n)

/-- A number in hexadecimal with the given count of digits. -/
def hexDigits : Nat → Nat → List Char
  | 0, _ => []
  | count + 1, n => hexDigits count (n / 16) ++ [hexDigit (n % 16)]

/-- One character of a display between quotes of the given kind. -/
def displayChar (quote c : Char) : List Char :=
  if c = quote || c = '\\' then ['\\', c]
  else if c = '\n' then ['\\', 'n']
  else if c = '\r' then ['\\', 'r']
  else if c = '\t' then ['\\', 't']
  else if isPrintable c then [c]
  else if c.toNat < 0x100 then '\\' :: 'x' :: hexDigits 2 c.toNat
  else if c.toNat < 0x10000 then '\\' :: 'u' :: hexDigits 4 c.toNat
  else '\\' :: 'U' :: hexDigits 8 c.toNat

/-- The quote that a display of the text uses. -/
def displayQuote (cs : List Char) : Char :=
  if cs.contains '\'' && !cs.contains '"' then '"' else '\''

/-- The text as messages show it. -/
def display (s : String) : String :=
  let quote := displayQuote s.toList
  String.ofList (quote :: (s.toList.flatMap (displayChar quote) ++ [quote]))

end BuildGraph.Text
