import BuildGraph.Text.CharClass
import BuildGraph.Text.UpperCase

/-!
# Letters that differ in case alone

A pattern may disregard case. Two letters then count as the same when they have the same
lower-case form, or forms that share an upper-case form. `CaseRule.alike` lists the lower-case
forms that count as the same as a given one, and `CaseRule.variants` all code points that do.
-/

namespace BuildGraph

open BuildGraph.Text

/-- How a pattern compares letters. -/
inductive CaseRule where
  /-- Every character stands for itself. -/
  | exact
  /-- The case of ASCII letters is disregarded. -/
  | ascii
  /-- The case of all letters is disregarded. -/
  | unicode
  deriving DecidableEq, Repr

/-- Lower-case letters that share an upper-case form. -/
def sharedUpperForms : List (List Nat) := [
  [105, 305], [115, 383], [181, 956], [837, 953, 8126], [912, 8147], [944, 8163], [946, 976],
  [949, 1013], [952, 977], [954, 1008], [960, 982], [961, 1009], [962, 963], [966, 981],
  [1074, 7296], [1076, 7297], [1086, 7298], [1089, 7299], [1090, 7300, 7301], [1098, 7302],
  [1123, 7303], [7304, 42571], [7777, 7835], [64261, 64262]]

/-- The lower-case form of a code point, where the dotted capital I has that of the capital I. -/
def foldPoint (n : Nat) : Nat :=
  if n = 0x130 then 0x69 else (n + stretchShift lowerStretches n).toNat

/-- The lower-case forms that count as the same as a given one. -/
def foldedAlike (n : Nat) : List Nat := (sharedUpperForms.find? (·.contains n)).getD [n]

/-- The code points of a stretch whose lower-case form is the given one. -/
def unfoldBy (n : Nat) : Nat × Nat × Nat × Int → Option Nat
  | (first, count, step, shift) =>
    let m := ((n : Int) - shift).toNat
    if first ≤ m && (m - first) % step = 0 && (m - first) / step < count then some m else none

/-- All code points whose lower-case form is the given one. -/
def unfoldPoint (n : Nat) : List Nat :=
  let others := lowerStretches.filterMap (unfoldBy n)
  (if foldPoint n = n then [n] else []) ++ others ++ (if n = 0x69 then [0x130] else [])

/-- Whether a stretch has a code point from `low` to `high`. -/
def stretchMeets (low high : Nat) : Nat × Nat × Nat × Int → Bool
  | (first, count, step, _) =>
    let k := (low - first + (step - 1)) / step
    k < count && first + k * step ≤ high

namespace CaseRule

/-- The form of a code point that is compared. -/
def fold : CaseRule → Nat → Nat
  | exact, n => n
  | ascii, n => if 65 ≤ n && n ≤ 90 then n + 32 else n
  | unicode, n => foldPoint n

/-- The forms that count as the same as a given form. -/
def alike : CaseRule → Nat → List Nat
  | unicode, n => foldedAlike n
  | _, n => [n]

/-- Whether two code points count as the same. -/
def same (rule : CaseRule) (n m : Nat) : Bool :=
  n == m || (rule != exact && (rule.alike (rule.fold n)).contains (rule.fold m))

/-- The code points that count as the same as the given one. -/
def variants : CaseRule → Nat → List Nat
  | exact, n => [n]
  | ascii, n =>
    if 65 ≤ n && n ≤ 90 then [n, n + 32]
    else if 97 ≤ n && n ≤ 122 then [n, n - 32]
    else [n]
  | unicode, n => (foldedAlike (foldPoint n)).flatMap unfoldPoint

/-- Whether a code point from `low` to `high` has a form in the other case. -/
def meetsCased (low high : Nat) : CaseRule → Bool
  | exact => false
  | ascii => (low ≤ 90 && 65 ≤ high) || (low ≤ 122 && 97 ≤ high)
  | unicode =>
    (low ≤ 0x130 && 0x130 ≤ high) || lowerStretches.any (stretchMeets low high) ||
      earlierUpperStretches.any (stretchMeets low high) ||
      laterUpperStretches.any (stretchMeets low high)

/-- Whether a code point has a form in the other case. -/
def isCased (rule : CaseRule) (n : Nat) : Bool := rule.meetsCased n n

end CaseRule

end BuildGraph
