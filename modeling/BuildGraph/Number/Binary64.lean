import BuildGraph.Number.Integer

/-!
# Binary floating point numbers of 64 bits

A finite number of the format is kept as the rational number it is. `Binary64.nearest` rounds a
rational number to the format: to 53 binary digits, or to a multiple of `2 ^ (-1074)` for the
smallest, with ties going to the even neighbour. Arithmetic is exact arithmetic followed by this
rounding. Zero has no sign here.
-/

namespace BuildGraph.Number

open BuildGraph.Text

/-- A number of the 64 bit format. -/
inductive Binary64 where
  | finite (value : Rat)
  | infinite (negative : Bool)
  | notANumber
  deriving DecidableEq

/-- A power of two with any integer exponent. -/
def twoPow (e : Int) : Rat :=
  if 0 ≤ e then ((Nat.pow 2 e.toNat : Nat) : Rat) else mkRat 1 (Nat.pow 2 (-e).toNat)

/-- The integer nearest to a rational number, the even one of two that are equally near. -/
def roundHalfEven (r : Rat) : Int :=
  let low := r.floor
  let part := r - low
  if part < mkRat 1 2 then low
  else if mkRat 1 2 < part then low + 1
  else if low % 2 = 0 then low else low + 1

/-- The integer part of a rational number: the fraction is cut off. -/
def truncate (r : Rat) : Int := Int.tdiv r.num r.den

/-- The exponent of the greatest power of two that is not above a positive rational number. -/
def binaryExponent (r : Rat) : Int :=
  let k := (r.num.natAbs.log2 : Int) - (r.den.log2 : Int)
  if r < twoPow k then k - 1 else k

namespace Binary64

/-- The number of the format nearest to a rational number. -/
def nearest (r : Rat) : Binary64 :=
  if r = 0 then .finite 0
  else
    let size := if r < 0 then -r else r
    let unit := max (-1074) (binaryExponent size - 52)
    let rounded := (roundHalfEven (size / twoPow unit) : Rat) * twoPow unit
    if twoPow 1024 ≤ rounded then .infinite (decide (r < 0))
    else .finite (if r < 0 then -rounded else rounded)

/-- The number of the format nearest to a quotient of integers. -/
def ofQuotient (n : Int) (d : Nat) : Binary64 := nearest (mkRat n d)

/-- The number of the format nearest to `digits * 10 ^ exponent`. Numbers far outside the range
of the format are settled by their count of digits alone. -/
def ofDecimal (negative : Bool) (digits : List Nat) (exponent : Int) : Binary64 :=
  let value := ofDigits 10 digits
  let size : Int := (digits.dropWhile (· == 0)).length + exponent
  if value = 0 then .finite 0
  else if 330 < size then .infinite negative
  else if size < -340 then .finite 0
  else
    let exact : Rat :=
      if 0 ≤ exponent then ((value * Nat.pow 10 exponent.toNat : Nat) : Rat)
      else mkRat value (Nat.pow 10 (-exponent).toNat)
    nearest (if negative then -exact else exact)

/-- Whether the number is one: `notANumber` is not. -/
def isNumber : Binary64 → Bool
  | .notANumber => false
  | _ => true

/-- The order of the format. Nothing is below or above `notANumber`. -/
def lt : Binary64 → Binary64 → Bool
  | .finite a, .finite b => decide (a < b)
  | .finite _, .infinite negative => !negative
  | .infinite negative, .finite _ => negative
  | .infinite a, .infinite b => a && !b
  | _, _ => false

/-- Equality of the format: `notANumber` equals nothing. -/
def eq : Binary64 → Binary64 → Bool
  | .finite a, .finite b => a == b
  | .infinite a, .infinite b => a == b
  | _, _ => false

/-- Below or equal. -/
def le (a b : Binary64) : Bool := lt a b || eq a b

/-- The sum of two finite numbers, rounded. -/
def add : Binary64 → Binary64 → Binary64
  | .finite a, .finite b => nearest (a + b)
  | a, .finite _ => a
  | .finite _, b => b
  | .infinite a, .infinite b => if a = b then .infinite a else .notANumber
  | _, _ => .notANumber

/-- The product of a number and a natural number, rounded. -/
def mulNat (n : Nat) : Binary64 → Binary64
  | .finite a => nearest (a * (n : Rat))
  | .infinite negative => if n = 0 then .notANumber else .infinite negative
  | .notANumber => .notANumber

/-- The integer part of a finite number. -/
def toInt : Binary64 → Int
  | .finite a => truncate a
  | _ => 0

/-- The finite number as a rational number, zero for the others. -/
def toRat : Binary64 → Rat
  | .finite a => a
  | _ => 0

end Binary64

/-- Reads plain digits, up to the first other character. -/
def plainDigits : List Char → List Nat × List Char
  | [] => ([], [])
  | c :: rest =>
    match digitIn? 10 c with
    | some d =>
      let (ds, tail) := plainDigits rest
      (d :: ds, tail)
    | none => ([], c :: rest)

/-- Reads the exponent at the end of a numeral: nothing, or `e`, a sign and digits. -/
def readExponent? : List Char → Option Int
  | [] => some 0
  | c :: rest =>
    if c = 'e' || c = 'E' then
      let (negative, body) := takeSign rest
      match plainDigits body with
      | ([], _) => none
      | (ds, []) => some (signed negative (ofDigits 10 ds))
      | _ => none
    else none

/-- Reads a decimal numeral: a sign, digits with a point among, before or behind them, and an
exponent. -/
def readNumeral? (cs : List Char) : Option Binary64 :=
  let (negative, body) := takeSign cs
  let (whole, tail) := plainDigits body
  let (part, last) := match tail with
    | '.' :: more => plainDigits more
    | _ => ([], tail)
  if whole.isEmpty && part.isEmpty then none
  else (readExponent? last).map fun e =>
    Binary64.ofDecimal negative (whole ++ part) (e - part.length)

/-- Takes underscores out of a numeral. Each must stand between two digits. `before` is the
character in front. -/
def dropUnderscores? (before : Option Char) : List Char → Option (List Char)
  | [] => if before = some '_' then none else some []
  | c :: rest =>
    let isDigitChar (c : Char) : Bool := (digitIn? 10 c).isSome
    if c = '_' then
      if before.any isDigitChar then dropUnderscores? (some c) rest else none
    else if before = some '_' && !isDigitChar c then none
    else (dropUnderscores? (some c) rest).map (c :: ·)

/-- Reads a number of the format: a numeral, or a name of an infinity or of `notANumber`. Blanks
around it and single underscores between digits are allowed. -/
def readBinary64? (s : String) : Option Binary64 :=
  match dropUnderscores? none (numberChars s) with
  | none => none
  | some cs =>
    let (negative, body) := takeSign cs
    let name := String.ofList (body.map Char.toLower)
    if name = "inf" || name = "infinity" then some (.infinite negative)
    else if name = "nan" then some .notANumber
    else readNumeral? cs

/-- A natural number of tenths with one decimal place. -/
def oneDecimal (r : Rat) : String :=
  let tenths := (roundHalfEven (r * 10)).toNat
  toString (tenths / 10) ++ "." ++ toString (tenths % 10)

end BuildGraph.Number
