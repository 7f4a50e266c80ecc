import BuildGraph.Proofs.Script.Found

/-!
# Comments and ends of lines are inert

Options say which comments a script has, and what is read from it does not depend on them:
`comments_inert` compares two scripts of one graph. Nor does it depend on how the lines of a script
end: `line_ends_inert` puts carriage returns before its line feeds. Both need that the comments are
harmless, since comments nest. A description that opens a comment hides all that stands below it, as
`open_comment_hides_tasks` shows, and a text that closes it again may leave a literal open over the
end of its line, as `open_comment_bares_line_end` shows.
-/

namespace BuildGraph.Script

open BuildGraph.Text

variable {g : Graph} {options options' : ExportOptions}

/-- What is found in a script does not depend on its comments. -/
theorem foundIn_congr (htasks : options.disabledTasks = options'.disabledTasks)
    (hformat : options.variableFormat = options'.variableFormat) :
    foundIn g options = foundIn g options' := by
  obtain ⟨_, _, _, _, _, _, _⟩ := options
  obtain ⟨_, _, _, _, _, _, _⟩ := options'
  obtain rfl := htasks
  obtain rfl := hformat
  rfl

/-- Two scripts of a graph that changes lead to, written with options that treat tasks and variables
alike, are read to the same graph with the same errors and the same remarks, or the same integer
stops both readings. Comments, descriptions, the name of the project and the time do not matter. -/
theorem comments_inert (hreachable : g.Reachable)
    (htasks : options.disabledTasks = options'.disabledTasks)
    (hformat : options.variableFormat = options'.variableFormat) (hharmless : Harmless g options)
    (hharmless' : Harmless g options') (now later : Timestamp) :
    readScript (g.script options now) {} = readScript (g.script options' later) {} := by
  have h := hreachable.well_formed
  rw [readScript_eq h now hharmless, readScript_eq h later hharmless',
    foundIn_congr htasks hformat]

/-- A description with the mark that ends comments, below a head with the name of a project. -/
theorem comments_inert_described :
    let copy : Node := { id := "a", name := "copy */ all", description := some "*/ glob **/x" }
    let g : Graph := [GraphChange.addNode copy].foldl Graph.after Graph.empty
    let options : ExportOptions := { projectName := some "a/b", includeTimestamp := true }
    let bare : ExportOptions := { includeComments := false, includeDescriptions := false }
    g.nodes = [copy] ∧
      readScript (g.script options ⟨0, none⟩) {} = readScript (g.script bare ⟨1, none⟩) {} := by
  intro copy g options bare
  have hnodes : g.nodes = [copy] := by decide +kernel
  have hreachable : g.Reachable := ⟨_, rfl⟩
  have hharmless : Harmless g options := {
    descriptions := by
      intro _ n hn d hd
      have hn := ((mem_emittedNodes hreachable.well_formed.nodes.ids).1 hn).1
      rw [hnodes, List.mem_singleton] at hn
      subst hn
      obtain rfl := Option.some.inj hd
      decide
    project := by
      intro _ name hname
      obtain rfl := Option.some.inj hname
      decide }
  have hbare : Harmless g bare := ⟨by simp [bare], by simp [bare]⟩
  exact ⟨hnodes,
    @comments_inert g options bare hreachable rfl rfl hharmless hbare ⟨0, none⟩ ⟨1, none⟩⟩

/-- A description that opens a comment hides the task below it: without descriptions the script is
read to a graph with the task, and with them to one without tasks. -/
theorem open_comment_hides_tasks :
    let task : Node := { id := "a", name := "a", description := some "/*" }
    let g : Graph := [GraphChange.addNode task].foldl Graph.after Graph.empty
    let bare : ExportOptions := { includeComments := false, includeDescriptions := false }
    let described : ExportOptions := { bare with includeDescriptions := true }
    g.Reachable ∧
      (readScript (g.script bare ⟨0, none⟩) {}).map (fun r => (r.graph.nodeIds, r.warnings)) =
        .ok (["task_a"], []) ∧
      (readScript (g.script described ⟨0, none⟩) {}).map (fun r => (r.graph.nodeIds, r.warnings)) =
        .ok ([], [.lexical 7 .unclosedComment, .noTasks]) :=
  ⟨⟨_, rfl⟩, by decide +kernel, by decide +kernel⟩

/-- The script of a graph that changes lead to is read to the same graph with the same errors and
the same remarks when carriage returns stand before all its line feeds, or the same integer stops
both readings. -/
theorem line_ends_inert (hreachable : g.Reachable) (hharmless : Harmless g options)
    (now : Timestamp) :
    readScript (LineEnd.returned.respell (g.script options now)) {} =
      readScript (g.script options now) {} := by
  have h := hreachable.well_formed
  rw [readScript_respell_eq h .returned now hharmless, readScript_eq h now hharmless]

/-- A task with a description of two lines and line breaks in its settings, a stub, and a variable
whose declaration is torn by the line break in its name. -/
theorem line_ends_inert_lines :
    let build : Node := { id := "a", name := "build", description := some "*/ one\ntwo\r"
                          step := .exec { commandLine := ["echo", "\n\r\n"] } }
    let off : Node := { id := "b", name := "off", enabled := false }
    let g : Graph := [GraphChange.addNode build, .addNode off,
      .addVariable { id := "v", name := "torn\n", defaultValue := "x" }].foldl
        Graph.after Graph.empty
    g.nodes = [build, off] ∧ g.userVariables.map Variable.name = ["torn\n"] ∧
      readScript (LineEnd.returned.respell (g.script {} ⟨0, none⟩)) {} =
        readScript (g.script {} ⟨0, none⟩) {} := by
  intro build off g
  have hnodes : g.nodes = [build, off] := by decide +kernel
  have hreachable : g.Reachable := ⟨_, rfl⟩
  have hharmless : Harmless g {} := by
    refine harmless_of_nodes hreachable.well_formed rfl ?_
    rw [hnodes]
    decide
  exact ⟨hnodes, by decide +kernel, @line_ends_inert g {} hreachable hharmless ⟨0, none⟩⟩

/-- A description opens a comment and the group of the task closes it, so that another task is read
from the middle of a literal. The quote at the end of the line opens a literal that takes a carriage
return along, and so this task has another group. -/
theorem open_comment_bares_line_end :
    let task : Node := { id := "a", name := "a", description := some "/*"
                         group := some "*/ tasks.register('x') \x7b group = " }
    let g : Graph := [GraphChange.addNode task].foldl Graph.after Graph.empty
    let options : ExportOptions := { includeComments := false }
    let groups := fun text => (readScript text {}).map fun r => r.graph.nodes.map Node.group
    g.Reachable ∧ groups (g.script options ⟨0, none⟩) = .ok [some ""] ∧
      groups (LineEnd.returned.respell (g.script options ⟨0, none⟩)) = .ok [some "\r"] := by
  intro task g options groups
  have htext : g.script options ⟨0, none⟩ =
      "import java.time.Duration\n\nplugins \x7b\n    base\n\x7d\n\n" ++
        "/**\n * /*\n */\ntasks.register(\"a\") \x7b\n" ++
        "    group = \"*/ tasks.register('x') \x7b group = \"\n" ++
        "    description = \"/*\"\n\x7d\n" := by
    decide +kernel
  rw [htext]
  refine ⟨⟨_, rfl⟩, by decide +kernel, ?_⟩
  simp only [groups, readScript, scan, LineEnd.respell, String.toList_ofList]
  decide +kernel

end BuildGraph.Script
