import BuildGraph.Text.Quoted
import BuildGraph.Text.Split

/-!
# Reading integers

An integer in a text may have blanks around it, a sign in front, digits of any script, and single
underscores between its digits. A text with more than `maxDigits` decimal digits is refused
before its value is looked at.
-/

namespace BuildGraph.Number

open BuildGraph.Text

/-- The longest decimal integer that is read. -/
def maxDigits : Nat := 4300

/-- Why a text is no integer. -/
inductive IntegerFault where
  | malformed
  | tooLong (digits : Nat)
  deriving DecidableEq, Repr

/-- Whether the character may stand around a number: white space, but not the four separators
that control characters encode. -/
def isNumberBlank (c : Char) : Bool := isBlank c && !(28 ≤ c.toNat && c.toNat ≤ 31)

/-- Replaces the decimal digits of any script by those of ASCII. -/
def plainDigit (c : Char) : Char :=
  if c.toNat < 128 then c
  else match decimalValue? c with
    | some d => Char.ofNat (48 + d)
    | none => c

/-- The characters of a number, without the blanks around it and with plain digits. -/
def numberChars (s : String) : List Char :=
  ((dropEnd isNumberBlank (dropStart isNumberBlank s.toList))).map plainDigit

/-- Takes the sign off a number: whether it is negative, and the rest. -/
def takeSign : List Char → Bool × List Char
  | '-' :: rest => (true, rest)
  | '+' :: rest => (false, rest)
  | cs => (false, cs)

/-- The value of a digit in bases up to sixteen. -/
def digitValue? (c : Char) : Option Nat :=
  let n := c.toNat
  if 48 ≤ n ∧ n ≤ 57 then some (n - 48)
  else if 97 ≤ n ∧ n ≤ 102 then some (n - 87)
  else if 65 ≤ n ∧ n ≤ 70 then some (n - 55)
  else none

/-- The value of a digit in the given base. -/
def digitIn? (base : Nat) (c : Char) : Option Nat := (digitValue? c).filter (· < base)

/-- Reads digits with single underscores between them, up to the first other character. `gap`
tells that no underscore may follow, and `read` holds the digits so far, the last one first. -/
def takeDigits (base : Nat) (gap : Bool) (read : List Nat) :
    List Char → Option (List Nat × List Char)
  | [] => if gap then none else some (read.reverse, [])
  | c :: rest =>
    if c = '_' then
      if gap then none else takeDigits base true read rest
    else match digitIn? base c with
      | some d => takeDigits base false (d :: read) rest
      | none => if gap then none else some (read.reverse, c :: rest)

/-- The number that digits denote in a base, the first digit having the most weight. -/
def ofDigits (base : Nat) (digits : List Nat) : Nat :=
  digits.foldl (fun value d => value * base + d) 0

/-- A natural number with its sign. -/
def signed (negative : Bool) (n : Nat) : Int := if negative then -(n : Int) else (n : Int)

/-- Reads a decimal integer. -/
def readInteger (s : String) : Except IntegerFault Int :=
  let (negative, body) := takeSign (numberChars s)
  match takeDigits 10 true [] body with
  | none => .error .malformed
  | some (digits, rest) =>
    if maxDigits < digits.length then .error (.tooLong digits.length)
    else if rest.isEmpty then .ok (signed negative (ofDigits 10 digits))
    else .error .malformed

/-- A text that was to be an integer and is none. -/
structure IntegerStop where
  text : String
  fault : IntegerFault
  deriving DecidableEq, Repr

/-- The most characters of a quoted text that the words for a malformed integer show. -/
def shownLength : Nat := 200

/-- The words for a text that is no integer. A long text is cut. -/
def IntegerStop.message (s : IntegerStop) : String :=
  match s.fault with
  | .malformed =>
    "invalid literal for int() with base 10: " ++
      String.ofList ((display s.text).toList.take shownLength)
  | .tooLong digits =>
    "Exceeds the limit (" ++ toString maxDigits ++
      " digits) for integer string conversion: value has " ++ toString digits ++
      " digits; use sys.set_int_max_str_digits() to increase the limit"

/-- Reads a decimal integer, or gives the text that is none. -/
def requireInteger (s : String) : Except IntegerStop Int :=
  (readInteger s).mapError fun fault => ⟨s, fault⟩

/-- Whether a text is digits and nothing else. Superscript digits count, so the text may still be
no integer. -/
def isDigitText (s : String) : Bool := s ≠ "" && s.toList.all isDigit

/-- Takes the mark of a hexadecimal number off, with one underscore after it. -/
def takeHexMark : List Char → List Char
  | '0' :: x :: rest =>
    if x = 'x' || x = 'X' then
      match rest with
      | '_' :: digits => digits
      | digits => digits
    else '0' :: x :: rest
  | cs => cs

/-- Reads a hexadecimal integer, with or without its mark. -/
def readHexadecimal? (s : String) : Option Int :=
  let (negative, body) := takeSign (numberChars s)
  match takeDigits 16 true [] (takeHexMark body) with
  | some (digits, []) => some (signed negative (ofDigits 16 digits))
  | _ => none

end BuildGraph.Number
