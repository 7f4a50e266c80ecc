/-!
# Reading UTF-8

Bytes are read one at a time. Where they are no UTF-8, each longest part that could still have
become a character, and each byte that could not start one, gives one replacement character.

Main definition: `decodeUtf8`.
-/

namespace BuildGraph.Text

/-- A reading of bytes. -/
structure Utf8Reading where
  /-- The number of bytes that the present character still needs. -/
  needed : Nat := 0
  /-- The value of its bytes so far. -/
  value : Nat := 0
  /-- The least byte that may come next. -/
  low : Nat := 0x80
  /-- The greatest byte that may come next. -/
  high : Nat := 0xbf
  /-- The characters that are read, the last one first. -/
  chars : List Char := []

namespace Utf8Reading

/-- The character that stands for bytes that are none. -/
def replacement : Char := Char.ofNat 0xfffd

/-- Reads the first byte of a character. -/
def first (r : Utf8Reading) (b : Nat) : Utf8Reading :=
  if b < 0x80 then { chars := Char.ofNat b :: r.chars }
  else if 0xc2 ≤ b && b ≤ 0xdf then { needed := 1, value := b - 0xc0, chars := r.chars }
  else if 0xe0 ≤ b && b ≤ 0xef then {
    needed := 2, value := b - 0xe0, chars := r.chars
    low := if b = 0xe0 then 0xa0 else 0x80
    high := if b = 0xed then 0x9f else 0xbf }
  else if 0xf0 ≤ b && b ≤ 0xf4 then {
    needed := 3, value := b - 0xf0, chars := r.chars
    low := if b = 0xf0 then 0x90 else 0x80
    high := if b = 0xf4 then 0x8f else 0xbf }
  else { chars := replacement :: r.chars }

/-- Reads a byte. One that cannot go on with the present character starts another. -/
def read (r : Utf8Reading) (byte : UInt8) : Utf8Reading :=
  let b := byte.toNat
  if r.needed = 0 then r.first b
  else if r.low ≤ b && b ≤ r.high then
    let value := r.value * 0x40 + (b - 0x80)
    if r.needed = 1 then { chars := Char.ofNat value :: r.chars }
    else { needed := r.needed - 1, value, chars := r.chars }
  else ({ chars := replacement :: r.chars } : Utf8Reading).first b

/-- The characters of a reading that is over. -/
def finish (r : Utf8Reading) : List Char :=
  (if r.needed = 0 then r.chars else replacement :: r.chars).reverse

end Utf8Reading

/-- The characters that bytes stand for. -/
def decodeUtf8 (bytes : List UInt8) : List Char :=
  (bytes.foldl Utf8Reading.read {}).finish

end BuildGraph.Text
