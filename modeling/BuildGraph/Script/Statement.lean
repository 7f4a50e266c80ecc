import BuildGraph.Script.Token

/-!
# Statements and delimiters

Parentheses, brackets and braces pair up the tokens of a script, and statements end at line breaks
and semicolons outside all pairs. A line break does not end a statement when an operator before or
after it carries the statement on.

Main definitions: `statementLength`, `split`, `matchingClose`.
-/

namespace BuildGraph.Script

/-- How the delimiters of some tokens fail to pair up. -/
inductive Unbalanced where
  /-- A closing delimiter without an open one. -/
  | unexpected (token : Token)
  /-- A closing delimiter of another kind than the open one. -/
  | mismatched (expected : String) (token : Token)
  /-- An opening delimiter that is never closed, and the token reported with it. -/
  | unclosed (opener : String) (token : Option Token)
  /-- There is no token where an opening delimiter was looked for. -/
  | missing
  deriving DecidableEq, Repr

namespace Unbalanced

/-- The words for a failure. -/
def message : Unbalanced → String
  | unexpected token => "Unexpected '" ++ token.value ++ "'"
  | mismatched expected token =>
    "Expected '" ++ expected ++ "' but found '" ++ token.value ++ "'"
  | unclosed opener _ => "Unclosed '" ++ opener ++ "'"
  | missing => "list index out of range"

/-- The token at which a failure is noticed. -/
def token? : Unbalanced → Option Token
  | unexpected token => some token
  | mismatched _ token => some token
  | unclosed _ token => token
  | missing => none

end Unbalanced

/-- The closing delimiter of an opening one. -/
def closerOf? (opener : String) : Option String :=
  if opener = "\x7b" then some "\x7d"
  else if opener = "(" then some ")"
  else if opener = "[" then some "]"
  else none

namespace Token

/-- The closing delimiter that the token calls for, if it is an opening one. -/
def closer? (t : Token) : Option String :=
  if t.kind == .op then closerOf? t.value else none

/-- Whether the token is a closing delimiter. -/
def isCloser (t : Token) : Bool :=
  t.kind == .op && (t.value == "\x7d" || t.value == ")" || t.value == "]")

end Token

/-- Operators that carry a statement on to the next line. -/
def carryingOn : List String :=
  ["?.", "?:", ".", "&&", "||", "=", ",", "+", "-", "*", "/", "==", "!=", "<", ">", "<=", ">=",
    "->", "::"]

/-- Operators that carry on the statement of the line before. -/
def carriedOn : List String := ["?.", "?:", ".", "&&", "||"]

/-- Whether a statement goes on over a line break, given the token before it and the tokens after
it. -/
def goesOn (last : Option Token) (after : List Token) : Bool :=
  last.any (fun t => t.kind == .op && carryingOn.contains t.value) ||
    (after.find? Token.isSignificant).any fun t => t.kind == .op && carriedOn.contains t.value

/-- The number of tokens of the statement that goes on with the given tokens. `opened` holds the
open delimiters, the last one first, `last` the token before, and `count` the number of tokens
before. -/
def statementLength (opened : List Token) (last : Option Token) (count : Nat) :
    List Token → Except Unbalanced Nat
  | [] =>
    match opened with
    | [] => .ok count
    | t :: _ => .error (.unclosed t.value none)
  | t :: rest =>
    if t.kind = .comment then statementLength opened last (count + 1) rest
    else if opened.isEmpty && t.isOp ";" then .ok count
    else if t.kind = .newline then
      if opened.isEmpty && !goesOn last rest then .ok count
      else statementLength opened last (count + 1) rest
    else if t.closer?.isSome then statementLength (t :: opened) (some t) (count + 1) rest
    else if t.isCloser then
      match opened with
      | [] => .error (.unexpected t)
      | o :: more =>
        if o.closer? = some t.value then statementLength more (some t) (count + 1) rest
        else .error (.mismatched (o.closer?.getD "") t)
    else statementLength opened (some t) (count + 1) rest

/-- Whether the token stands between statements. -/
def Token.isSeparator (t : Token) : Bool :=
  t.kind == .newline || t.kind == .comment || t.isOp ";"

/-- The places where the statements of some tokens start and stop. `skip` tokens still belong to
the statement before, and `place` is the place of the first token. -/
def splitFrom (skip place : Nat) : List Token → Except Unbalanced (List (Nat × Nat))
  | [] => .ok []
  | t :: rest =>
    match skip with
    | more + 1 => splitFrom more (place + 1) rest
    | 0 =>
      if t.isSeparator then splitFrom 0 (place + 1) rest
      else
        match statementLength [] none 0 (t :: rest) with
        | .error e => .error e
        | .ok n => (splitFrom (n - 1) (place + 1) rest).map ((place, place + n) :: ·)

/-- The places where statements start and stop among the tokens from `start` up to `stop`. A range
that goes beyond the tokens is refused when its end is reached. -/
def splitRange (tokens : List Token) (start stop : Nat) : Except Unbalanced (List (Nat × Nat)) :=
  match splitFrom 0 start ((tokens.take stop).drop start) with
  | .error (.unexpected t) => .error (.unexpected t)
  | .error (.mismatched expected t) => .error (.mismatched expected t)
  | result => if tokens.length < stop && start < stop then .error .missing else result

/-- The tokens of each statement. -/
def split (tokens : List Token) : Except Unbalanced (List (List Token)) :=
  (splitFrom 0 0 tokens).map fun ranges => ranges.map fun r => (tokens.take r.2).drop r.1

/-- What a search for a closing delimiter finds. -/
inductive CloseSearch where
  | found (place : Nat)
  | wrong (token : Token)
  | exhausted
  deriving DecidableEq, Repr

/-- Searches for the delimiter that closes all open ones. -/
def searchClose (opened : List Token) (place : Nat) : List Token → CloseSearch
  | [] => .exhausted
  | t :: rest =>
    if t.closer?.isSome then searchClose (t :: opened) (place + 1) rest
    else if t.isCloser then
      match opened with
      | [] => .wrong t
      | o :: more =>
        if o.closer? = some t.value then
          if more.isEmpty then .found place else searchClose more (place + 1) rest
        else .wrong t
    else searchClose opened (place + 1) rest

/-- The place of the delimiter that closes the one at a place, among the tokens up to `stop`. -/
def matchingClose (tokens : List Token) (opener stop : Nat) : Except Unbalanced Nat :=
  match searchClose [] opener ((tokens.take stop).drop opener) with
  | .found place => .ok place
  | .wrong t => .error (.unexpected t)
  | .exhausted =>
    if tokens.length < stop && opener < stop then .error .missing
    else match tokens[opener]? with
      | some t => .error (.unclosed t.value (some t))
      | none => .error .missing

/-- How the depth of delimiters changes at a token. -/
def Token.depthChange (t : Token) : Int :=
  if t.closer?.isSome then 1 else if t.isCloser then -1 else 0

/-- Cuts tokens at an operator outside all delimiters, with the piece being read in reverse. Line
breaks and comments are left out. There is always one piece more than there are cuts. -/
def cutFrom (operator : String) (depth : Int) (piece : List Token) :
    List Token → List (List Token)
  | [] => [piece.reverse]
  | t :: rest =>
    if t.isSignificant then
      let inner := depth + t.depthChange
      if inner = 0 && t.isOp operator then piece.reverse :: cutFrom operator inner [] rest
      else cutFrom operator inner (t :: piece) rest
    else cutFrom operator depth piece rest

/-- Cuts tokens at an operator outside all delimiters. -/
def splitTopLevel (operator : String) (tokens : List Token) : List (List Token) :=
  cutFrom operator 0 [] tokens

/-- The arguments of a call, separated by commas. Nothing behind the last comma is no argument. -/
def splitArguments (tokens : List Token) : List (List Token) :=
  let pieces := splitTopLevel "," tokens
  if pieces.getLast? = some [] then pieces.dropLast else pieces

/-- Takes parentheses off that enclose all of the tokens. The first argument bounds how many. -/
def unwrap : Nat → List Token → List Token
  | 0, tokens => tokens
  | count + 1, tokens =>
    if 2 ≤ tokens.length && tokens.head?.any (·.isOp "(") && tokens.getLast?.any (·.isOp ")") &&
        searchClose [] 0 tokens == .found (tokens.length - 1) then
      unwrap count (tokens.drop 1).dropLast
    else tokens

/-- The significant tokens without the parentheses that enclose all of them. -/
def stripParens (tokens : List Token) : List Token :=
  let significant := tokens.filter Token.isSignificant
  unwrap significant.length significant

end BuildGraph.Script
