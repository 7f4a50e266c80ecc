import BuildGraph.Script.Literal
import BuildGraph.Text.Split

/-!
# Tokens of a build script

A script is cut into identifiers, string literals, numbers, operators, line comments and line
breaks. Block comments and blanks are passed over, and neighbouring line breaks become one token.
What cannot be read is reported and passed over; nothing stops the reading.

Main definition: `scan`. A token knows its line and where it starts and stops in the text.
-/

namespace BuildGraph.Script

open BuildGraph.Text

/-- What a token is. -/
inductive TokenKind where
  | ident | string | number | op | newline | comment
  deriving DecidableEq, Repr

/-- The word for a kind of token. -/
def TokenKind.name : TokenKind → String
  | ident => "ident"
  | string => "string"
  | number => "number"
  | op => "op"
  | newline => "newline"
  | comment => "comment"

/-- A token of a script. -/
structure Token where
  kind : TokenKind
  /-- The text of an identifier, number or operator, what a literal denotes, or the words of a
  comment. -/
  value : String
  /-- The line on which the token starts, counted from one. -/
  line : Nat
  /-- Where the token starts in the text. -/
  start : Nat
  /-- Where the text goes on after the token. -/
  stop : Nat
  /-- Whether a template starts in a literal. -/
  template : Bool := false
  deriving DecidableEq, Repr

namespace Token

/-- Whether the token is the given operator. -/
def isOp (t : Token) (value : String) : Bool := t.kind == .op && t.value == value

/-- Whether the token is the given identifier. -/
def isIdent (t : Token) (value : String) : Bool := t.kind == .ident && t.value == value

/-- Whether the token is no line break and no comment. -/
def isSignificant (t : Token) : Bool := t.kind != .newline && t.kind != .comment

end Token

/-- What is wrong at a place of the text. -/
inductive LexicalFault where
  | unclosedComment
  | unclosedRawString
  | unclosedString
  | unclosedIdentifier
  | unexpected (c : Char)
  deriving DecidableEq, Repr

/-- The words for a fault. -/
def LexicalFault.message : LexicalFault → String
  | unclosedComment => "Unterminated block comment"
  | unclosedRawString => "Unterminated raw string literal"
  | unclosedString => "Unterminated string literal"
  | unclosedIdentifier => "Unterminated backtick identifier"
  | unexpected c => "Unexpected character " ++ display (String.singleton c)

/-- What stands at one place of the text. -/
structure Lexeme where
  /-- How many characters it takes, at least one. -/
  length : Nat
  /-- The token it makes: kind, value and whether a template starts in it. -/
  token : Option (TokenKind × List Char × Bool) := none
  fault : Option LexicalFault := none
  /-- How many line breaks are counted in it. -/
  breaks : Nat := 0
  deriving DecidableEq, Repr

/-- The operators; of two that fit, the first counts. -/
def operators : List (List Char) :=
  ["?.", "?:", "::", "!!", "==", "!=", "<=", ">=", "&&", "||", "->", "..", "+=", "-=",
    "\x7b", "\x7d", "(", ")", "[", "]", "<", ">", ",", ".", ":", ";", "=", "!",
    "?", "+", "-", "*", "/", "%", "@", "&", "|"].map String.toList

/-- The length of a block comment from one of its inner places on, `depth` comments being open,
and whether it is closed. -/
def commentLength (depth : Nat) : List Char → Nat × Bool
  | [] => (0, false)
  | '/' :: '*' :: rest =>
    let (n, closed) := commentLength (depth + 1) rest
    (n + 2, closed)
  | '*' :: '/' :: rest =>
    if depth ≤ 1 then (2, true)
    else
      let (n, closed) := commentLength (depth - 1) rest
      (n + 2, closed)
  | _ :: rest =>
    let (n, closed) := commentLength depth rest
    (n + 1, closed)

/-- A block comment. -/
def blockComment (cs : List Char) : Lexeme :=
  let (n, closed) := commentLength 0 cs
  { length := n
    fault := if closed then none else some .unclosedComment
    breaks := (cs.take n).count '\n' }

/-- The inside of a raw string and whether three quotes close it. Further quotes after the closing
ones belong to the inside. -/
def rawBody : List Char → List Char × Bool
  | [] => ([], false)
  | '"' :: '"' :: '"' :: rest => (rest.takeWhile (· == '"'), true)
  | c :: rest =>
    let (body, closed) := rawBody rest
    (c :: body, closed)

/-- A raw string, given the characters after its three opening quotes. -/
def rawString (cs : List Char) : Lexeme :=
  let (body, closed) := rawBody cs
  { length := 3 + body.length + if closed then 3 else 0
    token := some (.string, body, body.contains '$')
    fault := if closed then none else some .unclosedRawString
    breaks := body.count '\n' }

/-- A string or character literal, given its quote and the characters after it. -/
def quotedString (quote : Char) (cs : List Char) : Lexeme :=
  let body := bodyOf quote cs
  { length := 1 + body.length
    token := some (.string, body.value, body.template)
    fault := if body.closed then none else some .unclosedString }

/-- An identifier between backticks, given the characters after the first one. -/
def tickedIdentifier (cs : List Char) : Lexeme :=
  let name := cs.takeWhile fun c => c != '\x60' && c != '\n'
  if (cs.drop name.length).head? = some '\x60' then
    { length := name.length + 2, token := some (.ident, name, false) }
  else { length := 1, fault := some .unclosedIdentifier }

/-- Whether the character may stand inside an identifier. -/
def isWordChar (c : Char) : Bool := isAlphanumeric c || c == '_'

/-- What follows the first digit of a number. A point belongs to it only before a digit. -/
def numberTail : List Char → List Char
  | [] => []
  | '.' :: rest =>
    match rest with
    | d :: _ => if isDigit d then '.' :: numberTail rest else []
    | [] => []
  | c :: rest => if isWordChar c then c :: numberTail rest else []

/-- What stands at the place where a character and the rest of the text follow. -/
def lexeme (c : Char) (rest : List Char) : Lexeme :=
  if c = '\n' then { length := 1, token := some (.newline, ['\n'], false), breaks := 1 }
  else if c ∈ [' ', '\t', '\r', '\x0c', '\ufeff'] then { length := 1 }
  else if c = '/' && rest.head? == some '/' then
    let words := (rest.drop 1).takeWhile (· != '\n')
    { length := 2 + words.length, token := some (.comment, trimChars words, false) }
  else if c = '/' && rest.head? == some '*' then blockComment (c :: rest)
  else if c = '"' && rest.take 2 == ['"', '"'] then rawString (rest.drop 2)
  else if c = '"' || c = '\'' then quotedString c rest
  else if isLetter c || c = '_' then
    let tail := rest.takeWhile isWordChar
    { length := 1 + tail.length, token := some (.ident, c :: tail, false) }
  else if c = '\x60' then tickedIdentifier rest
  else if isDigit c then
    let tail := numberTail rest
    { length := 1 + tail.length, token := some (.number, c :: tail, false) }
  else match operators.find? fun op => op.isPrefixOf (c :: rest) with
    | some op => { length := op.length, token := some (.op, op, false) }
    | none => { length := 1, fault := some (.unexpected c) }

/-- The tokens of a text and what is wrong with it, each fault with its line. -/
structure Scan where
  tokens : List Token := []
  faults : List (Nat × LexicalFault) := []
  deriving DecidableEq, Repr

/-- Puts a token in front. -/
def Scan.push (token : Option Token) (fault : Option (Nat × LexicalFault)) (s : Scan) : Scan :=
  ⟨token.toList ++ s.tokens, fault.toList ++ s.faults⟩

/-- Scans a text from one of its places on. `skip` characters still belong to what was read last,
and `afterBreak` tells that the last token was a line break. -/
def scanFrom (skip place line : Nat) (afterBreak : Bool) : List Char → Scan
  | [] => {}
  | c :: rest =>
    match skip with
    | more + 1 => scanFrom more (place + 1) line afterBreak rest
    | 0 =>
      let found := lexeme c rest
      let fault := found.fault.map fun f => (line, f)
      let next := line + found.breaks
      match found.token with
      | none => (scanFrom (found.length - 1) (place + 1) next afterBreak rest).push none fault
      | some (kind, value, template) =>
        let token : Token :=
          ⟨kind, String.ofList value, line, place, place + found.length, template⟩
        let kept := if kind == .newline && afterBreak then none else some token
        (scanFrom (found.length - 1) (place + 1) next (kind == .newline) rest).push kept fault

/-- The tokens of a text and what is wrong with it. -/
def scan (text : String) : Scan := scanFrom 0 0 1 false text.toList

/-- The part of a text that tokens span. -/
def spanned (text : String) (tokens : List Token) : String :=
  match tokens.head?, tokens.getLast? with
  | some first, some last =>
    String.ofList ((text.toList.take last.stop).drop first.start)
  | _, _ => ""

end BuildGraph.Script
