import BuildGraph.Document.Basic
import BuildGraph.Run.Course
import BuildGraph.Text.Split
import BuildGraph.Text.Utf8

/-!
# Routes

What a service can be asked for, and where. A path may be one that the service does not know, or one
that it knows for other methods.

Main definition: `Route.find`.
-/

namespace BuildGraph

open BuildGraph.Text BuildGraph.Number

/-- What a service can be asked for. -/
inductive Route where
  | sampleGraph
  | validateGraph
  | executionOrder
  | validateConnection
  | exportScript
  | importScript
  | startRun
  | currentRun
  | control (c : Control)
  | history
  | clearHistory
  | entry (id : String)
  | labelEntry (id : String)
  | deleteEntry (id : String)
  deriving DecidableEq, Repr

namespace Route

/-- Reads two hexadecimal digits behind each percent sign as a byte. -/
def bytesOfPath : List Char → List UInt8
  | '%' :: a :: b :: rest =>
    match digitIn? 16 a, digitIn? 16 b with
    | some high, some low => UInt8.ofNat (high * 16 + low) :: bytesOfPath rest
    | _, _ => '%'.toNat.toUInt8 :: bytesOfPath (a :: b :: rest)
  | c :: rest => String.utf8EncodeChar c ++ bytesOfPath rest
  | [] => []

/-- The segments of a path, without its query. -/
def segments (path : String) : List String :=
  let bare := path.toList.takeWhile fun c => c != '?' && c != '#'
  ((splitChars '/' (decodeUtf8 (bytesOfPath bare))).map String.ofList).drop 1

/-- The paths that the service knows, with their methods and what they ask for. -/
def table : List String → List (String × Route)
  | ["graphs", "sample"] => [("GET", sampleGraph)]
  | ["graphs", "validate"] => [("POST", validateGraph)]
  | ["graphs", "execution-order"] => [("POST", executionOrder)]
  | ["graphs", "connections", "validate"] => [("POST", validateConnection)]
  | ["scripts", "export"] => [("POST", exportScript)]
  | ["scripts", "import"] => [("POST", importScript)]
  | ["runs", ""] => [("POST", startRun)]
  | ["runs", "current"] => [("GET", currentRun)]
  | ["runs", "current", "pause"] => [("POST", control .pause)]
  | ["runs", "current", "resume"] => [("POST", control .resume)]
  | ["runs", "current", "abort"] => [("POST", control .abort)]
  | ["runs", "current", "reset"] => [("POST", control .reset)]
  | ["runs", "history"] => [("GET", history), ("DELETE", clearHistory)]
  | ["runs", "history", id] =>
    if id = "" then []
    else [("GET", entry id), ("PATCH", labelEntry id), ("DELETE", deleteEntry id)]
  | _ => []

/-- The segments without one line feed at their end, if there is one. -/
def withoutBreak? (parts : List String) : Option (List String) :=
  match parts.getLast? with
  | some last =>
    if last.toList.getLast? = some '\n' then
      some (parts.dropLast ++ [String.ofList last.toList.dropLast])
    else none
  | none => none

/-- The methods that a path has, and what they ask for. One line feed at the end of a path that the
table does not hold is overlooked. -/
def choices (parts : List String) : List (String × Route) :=
  match table parts, withoutBreak? parts with
  | [], some bare => table bare
  | found, _ => found

/-- Why a request has no route. -/
inductive Miss where
  | path
  | method
  /-- The path is known with a slash more or less at its end. -/
  | slash
  deriving DecidableEq, Repr

/-- The path with a slash more or less at its end. -/
def otherSlash (parts : List String) : List String :=
  if parts.getLast? = some "" then parts.dropLast else parts ++ [""]

/-- What a request asks for. -/
def find (method path : String) : Except Miss Route :=
  let parts := segments path
  match choices parts with
  | [] => .error (if (choices (otherSlash parts)).isEmpty then .path else .slash)
  | found =>
    match found.find? fun c => c.1 == method with
    | some c => .ok c.2
    | none => .error .method

end Route

end BuildGraph
