import BuildGraph.Work.Failure
import BuildGraph.Text.Split
import BuildGraph.Text.Utf8

/-!
# Work by a build process

A task is carried out by the process of a build tool. Its output arrives in chunks and is reported
line by line, and then its exit is waited for. A line that is longer than `lineLimit`, a report that
fails, and whoever calls the task off cut this short; whatever happens, the process is killed and
waited for if its exit is not known by then.

Main definitions: `BuildTool.launch`, `Watching.run`, `ProcessCourse.watch`.
-/

namespace BuildGraph

open BuildGraph.Text

/-- A build tool: its executable, where it runs by default, and the file it builds. -/
structure BuildTool where
  executable : String := "gradle"
  projectDir : Option String := none
  buildFile : Option String := none
  deriving DecidableEq, Repr

/-- What a process is started with. -/
structure Launch where
  command : List String
  directory : Option String
  environment : List (String × String)
  deriving DecidableEq, Repr

namespace BuildTool

/-- The command for a request. -/
def command (t : BuildTool) (r : WorkRequest) : List String :=
  t.executable ::
    ((match t.buildFile with
      | some file => if file = "" then [] else ["--build-file", file]
      | none => []) ++ r.taskName :: r.arguments)

/-- How the process for a request is started. The request adds to the surrounding environment,
and its variables are in order. -/
def launch (t : BuildTool) (surrounding : TextTable) (r : WorkRequest) : Launch where
  command := t.command r
  directory := (r.projectPath.filter (· ≠ "")).or t.projectDir
  environment := (surrounding.merge r.environment).entries.mergeSort
    fun a b => decide (a.1 ≤ b.1)

/-- What comes of a process that could not be started. A failure of the operating system becomes a
result. -/
def startFailure (t : BuildTool) (failure : WorkFailure) : WorkEnd :=
  if failure.isOfSystem then .returned {
    success := false
    error := some ("Failed to start " ++ t.executable ++ ": " ++ failure.words)
    exitCode := some (-1) }
  else .failed failure

end BuildTool

/-- The greatest number of bytes in a line, its break left out. -/
def lineLimit : Nat := 1024 * 1024

/-- Why the reading of output ends early. -/
inductive LineFault where
  /-- A line with a break is too long. -/
  | closedTooLong
  /-- The bytes after the last break are too many. -/
  | openTooLong
  deriving DecidableEq, Repr

/-- The words for a fault. -/
def LineFault.message : LineFault → String
  | closedTooLong => "Separator is found, but chunk is longer than limit"
  | openTooLong => "Separator is not found, and chunk exceed the limit"

/-- The text of a line: carriage returns and line breaks at its end are left out. -/
def lineText (bytes : List UInt8) : String :=
  String.ofList (dropEnd (fun c => c == '\r' || c == '\n') (decodeUtf8 bytes))

/-- Why the watching of a process ends early. -/
inductive WatchBreak where
  | line (fault : LineFault)
  /-- The output can no longer be read, or a line cannot be reported. -/
  | report (failure : WorkFailure)
  | calledOff
  deriving DecidableEq, Repr

/-- A process that was started. -/
structure ChildProcess where
  /-- The exit code, once it is known. -/
  exitCode : Option Int := none
  killed : Bool := false
  /-- Whether its exit was waited for. -/
  awaited : Bool := false
  deriving DecidableEq, Repr

/-- The exit code of a process that was killed. -/
def killedCode : Int := -9

namespace ChildProcess

/-- Takes note of an exit code. -/
def learn (p : ChildProcess) (code : Option Int) : ChildProcess :=
  { p with exitCode := p.exitCode.or code }

def kill (p : ChildProcess) : ChildProcess := { p with killed := true }

/-- Waits for the exit, which comes with the given code unless it is known. -/
def await (p : ChildProcess) (code : Int) : ChildProcess :=
  { p.learn (some code) with awaited := true }

/-- Makes sure that the process is over. -/
def cleanUp (p : ChildProcess) : ChildProcess :=
  if p.exitCode.isNone then p.kill.await killedCode else p

end ChildProcess

/-- What is heard of a process. -/
inductive ProcessNews where
  /-- Some output arrives. -/
  | output (chunk : List UInt8)
  /-- The output ends. -/
  | closed
  | exited (code : Int)
  /-- The reading, or the waiting for the exit, fails or is called off. -/
  | broken (cause : WatchBreak)
  deriving DecidableEq, Repr

/-- What happens while a line is reported. -/
structure Delivery where
  /-- The exit code, if it becomes known. -/
  exitCode : Option Int := none
  /-- What breaks the watching off, if anything does. -/
  stop : Option WatchBreak := none

/-- How the watching of a process came out. -/
structure ProcessWatch where
  /-- The lines that were reported. -/
  lines : List String
  ending : Except WatchBreak WorkResult
  process : ChildProcess

/-- Whether the process was killed. Otherwise it exited. -/
def ProcessWatch.killed (r : ProcessWatch) : Bool := r.process.killed

/-- The result of a process whose output was read to the end. -/
def exitResult (lines : List String) (exitCode : Int) : WorkResult where
  success := exitCode == 0
  output := String.intercalate "\n" lines
  error := if exitCode = 0 then none else some ("Gradle exited with code " ++ toString exitCode)
  exitCode := some exitCode

/-- A process under watch. -/
structure Watching where
  process : ChildProcess := {}
  /-- The bytes of the present line, the last one first. -/
  line : List UInt8 := []
  /-- Their number. -/
  size : Nat := 0
  /-- The lines that were reported. -/
  lines : Array String := #[]
  /-- Whether the output has ended. -/
  closed : Bool := false

namespace Watching

/-- Ends the watching, and the process with it. -/
def finish (w : Watching) (ending : Except WatchBreak WorkResult) : ProcessWatch where
  lines := w.lines.toList
  ending
  process := w.process.cleanUp

/-- Breaks the watching off. -/
def breakOff (w : Watching) (cause : WatchBreak) : ProcessWatch := w.finish (.error cause)

/-- The present line is reported. -/
def reported (w : Watching) (delivery : Delivery) : Watching := { w with
  process := w.process.learn delivery.exitCode
  line := []
  size := 0
  lines := w.lines.push (lineText w.line.reverse) }

/-- Reports the present line. `deliver` tells what happens while the lines are reported, by their
number. -/
def handOn (deliver : Nat → Delivery) (w : Watching) : Except ProcessWatch Watching :=
  let delivery := deliver w.lines.size
  match delivery.stop with
  | some cause => .error ((w.reported delivery).breakOff cause)
  | none => .ok (w.reported delivery)

/-- Reads the bytes of a chunk. -/
def read (deliver : Nat → Delivery) (w : Watching) : List UInt8 → Except ProcessWatch Watching
  | [] => if lineLimit < w.size then .error (w.breakOff (.line .openTooLong)) else .ok w
  | byte :: rest =>
    if byte = 10 then
      if lineLimit < w.size then .error (w.breakOff (.line .closedTooLong))
      else match w.handOn deliver with
        | .ok w => read deliver w rest
        | .error ended => .error ended
    else read deliver { w with line := byte :: w.line, size := w.size + 1 } rest

/-- Comes to a result once the output has ended and the exit is known. -/
def settle (w : Watching) : Except ProcessWatch Watching :=
  match w.closed, w.process.exitCode with
  | true, some code =>
    let w := { w with process := w.process.await code }
    .error (w.finish (.ok (exitResult w.lines.toList code)))
  | _, _ => .ok w

/-- Hears news of the process. What is left of the output at its end is a line if there is
anything. -/
def hear (deliver : Nat → Delivery) (w : Watching) : ProcessNews → Except ProcessWatch Watching
  | .output chunk => if w.closed then .ok w else w.read deliver chunk
  | .closed => do
    let w ← if w.size = 0 then .ok w else w.handOn deliver
    settle { w with closed := true }
  | .exited code => settle { w with process := w.process.learn (some code) }
  | .broken cause => .error (w.breakOff cause)

/-- Watches the process until the news end it. Where they leave off before, the task is called
off. -/
def run (deliver : Nat → Delivery) (w : Watching) : List ProcessNews → ProcessWatch
  | [] => w.breakOff .calledOff
  | news :: later =>
    match w.hear deliver news with
    | .ok w => run deliver w later
    | .error ended => ended

end Watching

/-- What a process does once it is started: its output and its exit code. -/
structure ProcessCourse where
  output : List UInt8
  exitCode : Int := 0
  deriving DecidableEq

/-- Watches a process to its end. `stop` tells what breaks the watching off after a number of
lines, if anything does. -/
def ProcessCourse.watch (p : ProcessCourse) (stop : Nat → Option WatchBreak) : ProcessWatch :=
  let news := [.output p.output, .closed, .exited p.exitCode]
  Watching.run (fun n => { stop := stop (n + 1) }) {}
    ((stop 0).toList.map ProcessNews.broken ++ news)

end BuildGraph
