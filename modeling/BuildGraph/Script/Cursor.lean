import BuildGraph.Number.Integer
import BuildGraph.Script.Statement

/-!
# Reading tokens one by one

A `Cursor` is a place among tokens. Line breaks and comments stay among the tokens, but every
reading passes over them. A `Recognizer` reads from a cursor and finds a value, or finds nothing,
or stops at tokens that no reading can get past.
-/

namespace BuildGraph.Script

open BuildGraph.Number

/-- A place among tokens. -/
structure Cursor where
  /-- The tokens from the place on. -/
  rest : List Token
  /-- How many tokens are before the place. -/
  pos : Nat := 0
  deriving DecidableEq, Repr

namespace Cursor

/-- The place some tokens further. -/
def advance (c : Cursor) (count : Nat) : Cursor := ⟨c.rest.drop count, c.pos + count⟩

/-- The place of the next significant token. -/
def skip (c : Cursor) : Cursor :=
  c.advance (c.rest.takeWhile fun t => !t.isSignificant).length

/-- The significant token some significant tokens further. -/
def peek (c : Cursor) (offset : Nat) : Option Token :=
  (c.rest.filter Token.isSignificant)[offset]?

/-- The next significant token and the place after it. -/
def next (c : Cursor) : Option Token × Cursor :=
  let s := c.skip
  match s.rest with
  | [] => (none, s)
  | t :: _ => (some t, s.advance 1)

/-- Whether no significant token is left. -/
def atEnd (c : Cursor) : Bool := c.skip.rest.isEmpty

/-- The place after all tokens. -/
def finish (c : Cursor) : Cursor := c.advance c.rest.length

end Cursor

/-- Why a reading stops. -/
inductive Stop where
  | unbalanced (cause : Unbalanced)
  | integer (cause : IntegerStop)
  deriving DecidableEq, Repr

/-- What a reading comes to. -/
inductive Reading (α : Type) where
  | found (value : α) (rest : Cursor)
  | absent
  | stopped (cause : Stop)
  deriving DecidableEq, Repr

/-- A reading from a place among tokens. -/
def Recognizer (α : Type) : Type := Cursor → Reading α

namespace Recognizer

variable {α β : Type}

/-- Finds a value without reading. -/
def find (a : α) : Recognizer α := fun c => .found a c

/-- Finds nothing. -/
def absent : Recognizer α := fun _ => .absent

/-- Goes on with what was found. -/
def andThen (r : Recognizer α) (f : α → Recognizer β) : Recognizer β := fun c =>
  match r c with
  | .found a rest => f a rest
  | .absent => .absent
  | .stopped cause => .stopped cause

/-- Reads in a second way, from the same place, when the first way finds nothing. -/
def orElse (r s : Recognizer α) : Recognizer α := fun c =>
  match r c with
  | .absent => s c
  | other => other

instance : Monad Recognizer where
  pure := find
  bind := andThen

instance : OrElse (Recognizer α) where
  orElse r s := r.orElse (s ())

/-- Reads if possible, and stays at the place if nothing is found. -/
def optional (r : Recognizer α) : Recognizer (Option α) := fun c =>
  match r c with
  | .found a rest => .found (some a) rest
  | .absent => .found none c
  | .stopped cause => .stopped cause

/-- Finds the value if there is one. -/
def ofOption (a : Option α) : Recognizer α :=
  match a with
  | some a => find a
  | none => absent

/-- Finds something only if the test holds. -/
def require (test : Bool) : Recognizer Unit := if test then find () else absent

/-- Reads all the given tokens with a recognizer, from another place. -/
def within (r : Recognizer α) (tokens : List Token) : Recognizer α := fun c =>
  match r ⟨tokens, 0⟩ with
  | .found a _ => .found a c
  | .absent => .absent
  | .stopped cause => .stopped cause

/-- Requires that no significant token is left. -/
def finished : Recognizer Unit := fun c =>
  if c.atEnd then .found () c.skip else .absent

/-- The next significant token, if it passes a test. -/
def token (test : Token → Bool) : Recognizer Token := fun c =>
  match c.next with
  | (some t, rest) => if test t then .found t rest else .absent
  | (none, _) => .absent

/-- The given operators one after another. -/
def ops : List String → Recognizer Unit
  | [] => find ()
  | op :: more => do
    let _ ← token fun t => t.isOp op
    ops more

/-- The given operator. -/
def op (value : String) : Recognizer Unit := ops [value]

/-- Any identifier. -/
def anyIdent : Recognizer String := do
  let t ← token fun t => t.kind == .ident
  return t.value

/-- The given identifier. -/
def ident (value : String) : Recognizer Unit := do
  let _ ← token fun t => t.isIdent value
  return ()

/-- Identifiers joined by points. -/
def path : List String → Recognizer Unit
  | [] => find ()
  | [name] => ident name
  | name :: more => do
    ident name
    op "."
    path more

/-- A string literal. -/
def string : Recognizer String := do
  let t ← token fun t => t.kind == .string
  return t.value

/-- A number. -/
def number : Recognizer String := do
  let t ← token fun t => t.kind == .number
  return t.value

/-- The tokens between an opening delimiter and the one that closes it. -/
def group (opener : String) : Recognizer (List Token) := fun c =>
  let s := c.skip
  match s.rest with
  | [] => .absent
  | t :: _ =>
    if t.isOp opener then
      match matchingClose s.rest 0 s.rest.length with
      | .error cause => .stopped (.unbalanced cause)
      | .ok close => .found ((s.rest.take close).drop 1) (s.advance (close + 1))
    else .absent

end Recognizer

/-- The text of a single string literal. -/
def singleString? (tokens : List Token) : Option String :=
  match tokens.filter Token.isSignificant with
  | [t] => if t.kind = .string then some t.value else none
  | _ => none

/-- The texts of arguments that are string literals all. -/
def stringArguments? (tokens : List Token) : Option (List String) :=
  (splitArguments tokens).mapM fun
    | [t] => if t.kind = .string then some t.value else none
    | _ => none

namespace Recognizer

/-- A group that holds a single string literal. -/
def stringIn (opener : String) : Recognizer String := do
  let tokens ← group opener
  ofOption (singleString? tokens)

end Recognizer

end BuildGraph.Script
