import BuildGraph.Run.Work
import BuildGraph.Text.Quoted

/-!
# Failures of work

The words for a failure of the work itself. A failure is given by its kind and its details. A
failure of the operating system has a number, a text and perhaps files for details, and its number
may narrow its kind.

Main definition: `WorkEnd.ofFailure`.
-/

namespace BuildGraph

/-- A detail of a failure. -/
inductive FailureDetail where
  | nothing
  | flag (b : Bool)
  | number (n : Int)
  | words (s : String)
  deriving DecidableEq, Repr

namespace FailureDetail

/-- A detail as it is read. -/
def plain : FailureDetail → String
  | nothing => "None"
  | flag b => if b then "True" else "False"
  | number n => toString n
  | words s => s

/-- A detail as it is written down, a text in quotes. -/
def shown : FailureDetail → String
  | words s => Text.display s
  | d => d.plain

end FailureDetail

/-- The kinds of failures of the operating system, and the numbers that narrow the general kind to
them. -/
def systemKinds : List (String × List Int) := [
  ("BlockingIOError", [11, 114, 115]), ("BrokenPipeError", [32, 108]),
  ("ChildProcessError", [10]), ("ConnectionAbortedError", [103]),
  ("ConnectionRefusedError", [111]), ("ConnectionResetError", [104]), ("FileExistsError", [17]),
  ("FileNotFoundError", [2]), ("IsADirectoryError", [21]), ("NotADirectoryError", [20]),
  ("InterruptedError", [4]), ("PermissionError", [13, 1]), ("ProcessLookupError", [3]),
  (timeoutKind, [110]), ("ConnectionError", []), ("OSError", [])]

/-- The kind that a name stands for. Two names are other names of the general failure of the
operating system. -/
def properKind (kind : String) : String :=
  if kind = "IOError" || kind = "EnvironmentError" then "OSError" else kind

/-- The number that a detail is, a truth value counting as one or zero. -/
def FailureDetail.number? : FailureDetail → Option Int
  | number n => some n
  | flag b => some (if b then 1 else 0)
  | _ => none

/-- Whether details of a failure of the operating system have the form of a number, a text and
perhaps files. -/
def isSystemForm (details : List FailureDetail) : Bool :=
  2 ≤ details.length && details.length ≤ 5

/-- The kind to which details narrow a kind. -/
def narrowedKind (kind : String) (details : List FailureDetail) : String :=
  match (details.head?).bind FailureDetail.number? with
  | some n =>
    if kind = "OSError" && isSystemForm details then
      ((systemKinds.find? fun k => k.2.contains n).map Prod.fst).getD kind
    else kind
  | none => kind

/-- The words that details make without a rule of their own. -/
def detailWords : List FailureDetail → String
  | [] => ""
  | [one] => one.plain
  | many => "(" ++ String.intercalate ", " (many.map FailureDetail.shown) ++ ")"

/-- The kind of a failure to wait. Its third detail may be the number of characters that were
written before, in place of a file. -/
def blockingKind : String := "BlockingIOError"

/-- The number of characters that were written before a failure to wait. -/
def writtenBefore? (kind : String) (details : List FailureDetail) : Option Int :=
  if kind = blockingKind && isSystemForm details then
    (details[2]?).bind FailureDetail.number?
  else none

/-- The files that details of a failure of the operating system name. A second file counts only
beside a first one, and what stands between them does not count. -/
def namedFiles (details : List FailureDetail) : List FailureDetail :=
  match (details[2]?).filter (· ≠ .nothing), (details[4]?).filter (· ≠ .nothing) with
  | some file, some other => [file, other]
  | some file, none => [file]
  | none, _ => []

/-- The words that details of a failure of the operating system make: number, text and files. -/
def systemWords (kind : String) (details : List FailureDetail) : String :=
  match isSystemForm details, details with
  | true, number :: text :: _ =>
    let head := "[Errno " ++ number.plain ++ "] " ++ text.plain
    let files := if (writtenBefore? kind details).isSome then [] else namedFiles details
    if files.isEmpty then head
    else head ++ ": " ++ String.intercalate " -> " (files.map FailureDetail.shown)
  | _, _ => detailWords details

/-- The words for a failure of a kind. -/
def failureText (kind : String) (details : List FailureDetail) : String :=
  if systemKinds.any fun k => k.1 == kind then systemWords kind details
  else match details with
    | [one] => if kind = "KeyError" then one.shown else one.plain
    | _ => detailWords details

/-- The kind of the signal that a sequence has ended. Work that ends with it has failed. -/
def exhaustionKind : String := "StopIteration"

/-- Whether a number counts characters: it has to fit into 64 bits. -/
def isCount (n : Int) : Bool := -9223372036854775808 ≤ n && n < 9223372036854775808

/-- A failure of a kind with details. A count of characters that is too large makes a failure of
its own. -/
def WorkFailure.ofDetails (kind : String) (details : List FailureDetail) : WorkFailure :=
  let narrowed := narrowedKind (properKind kind) details
  if (writtenBefore? narrowed details).any fun n => !isCount n then
    ⟨"ValueError", "cannot fit 'int' into an index-sized integer"⟩
  else if narrowed = exhaustionKind then ⟨"RuntimeError", "coroutine raised StopIteration"⟩
  else ⟨narrowed, failureText narrowed details⟩

/-- Whether a failure is one of the operating system. -/
def WorkFailure.isOfSystem (f : WorkFailure) : Bool := systemKinds.any fun k => k.1 == f.kind

/-- The end of work by a failure. Work that is cancelled is called off. -/
def WorkEnd.ofFailure (kind : String) (details : List FailureDetail) : WorkEnd :=
  if kind = "CancelledError" then .calledOff else .failed (WorkFailure.ofDetails kind details)

end BuildGraph
