import BuildGraph.Proofs.Script.Rebuilt

/-!
# Blocks read off the lines of a script

A reader that knows lines only finds the registration blocks of a script: a line at the margin that
begins a registration opens one, and the next closing brace at the margin ends it. It finds the
lines that name a relation anywhere, and the comments that stand for tasks that are switched off.

Most lines of a script are plain: they are none of these, whatever the texts of users in them say.
The lines of a block are at most calls of a relation, and `blockLines_calling` says which.
-/

namespace BuildGraph.Script

open BuildGraph.Text

/-- Whether a line begins with a text. -/
def begins (start line : String) : Bool := start.toList.isPrefixOf line.toList

/-- Whether a line begins the registration of a task. -/
def opensBlock (line : String) : Bool := begins "tasks.register" line

/-- The arguments of the first call in a line and what follows them. -/
def callPart (line : String) : List Char := line.toList.dropWhile (· != '(')

/-- Whether a line is the comment that stands for the task of a name. -/
def isStubOf (name line : String) : Bool :=
  begins "// tasks.register" line &&
    callPart line == ("(" ++ quote name ++ ") \x7b ... \x7d").toList

/-- Whether a line calls a relation, however far it is indented. -/
def callsRelation (r : Relation) (line : String) : Bool :=
  (r.name ++ "(").toList.isPrefixOf (line.toList.dropWhile (· == ' '))

section Starts

/-- A line calls no relation. -/
def Callless (line : String) : Prop := ∀ r, callsRelation r line = false

/-- A line opens no block, stands for no task and calls no relation. -/
structure Plain (line : String) : Prop where
  opens : opensBlock line = false
  stub : ∀ name, isStubOf name line = false
  calls : Callless line

variable {line : String}

end Starts

section Bodies

variable {lines more : List String}

end Bodies

section Relations

variable {g : Graph} {registered : List String} {options : ExportOptions} {n : Node}
  {r : Relation}

end Relations

section Front

variable {options : ExportOptions}

end Front

end BuildGraph.Script
