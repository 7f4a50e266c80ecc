import BuildGraph.Proofs.Script.Nodes
import BuildGraph.Proofs.Script.Rewritten

/-!
# Stubs of disabled tasks

A disabled task may stand in a script as a stub: a comment with the header of its block. Such a task
is read back from its stub with the same header, and so it has the same stub again. Its description
stands in a comment of its own above the stub, and comments of this sort are passed over: what is
written again are the lines without the description, as `stub_written_again` says and
`described_stub_loses_lines` shows.
-/

namespace BuildGraph.Script

open BuildGraph.Text BuildGraph.Number

variable {g : Graph} {options : ExportOptions} {registered : List String} {n : Node}
  {f : Findings}

/-- Blocks with distinct identifiers for names become the nodes of the graph. -/
theorem assemble_nodes
    (hnamed : ∀ b ∈ f.blocks, toIdentifier b.name = b.name ∧ isBlankText b.name = false)
    (hfresh : ∀ b ∈ f.blocks, taskId b.name ∉ f.ids.issued)
    (hnames : (f.blocks.map Block.name).Nodup) :
    (assemble f).graph.nodes = f.blocks.map blockNode := by
  have hempty := declareVariables_nodes f.vars
    { graph := Graph.empty, errors := f.errors, warnings := f.warnings }
  rw [assemble]
  generalize declareVariables f.vars
    { graph := Graph.empty, errors := f.errors, warnings := f.warnings } = r at hempty
  have hnone : r.graph.nodes = [] := hempty
  rw [addNodes_eq hnamed hfresh (by simp [hnone]) (by simpa [hnone] using hnames)]
  dsimp only
  split_ifs <;> simp [foldl_addRelation_nodes, hnone]

/-- A stub is read to a task with the same lines below its description, which it has lost. -/
theorem taskBlock_stub (hstub : isStub options n = true) (g' : Graph) (registered' : List String) :
    taskBlock g registered options n =
      descriptionLines options n ++
        taskBlock g' registered' options (blockNode (stubBlock n 0)) := by
  have hidentifier : (blockNode (stubBlock n 0)).identifier = n.identifier :=
    to_identifier_to_identifier n.name
  have hheader : registrationHeader (blockNode (stubBlock n 0)) = registrationHeader n := by
    rw [registrationHeader, registrationHeader, (stubNode_class n).1, hidentifier]
  have hagain : isStub options (blockNode (stubBlock n 0)) = true := by
    rw [isStub, Bool.and_eq_true] at hstub ⊢
    exact ⟨rfl, hstub.2⟩
  have hdescription : descriptionLines options (blockNode (stubBlock n 0)) = [] := by
    rw [descriptionLines]
    split <;> rfl
  rw [taskBlock_eq, taskBlock_eq, if_pos hstub, if_pos hagain, hheader, hdescription,
    List.nil_append]

/-- No lines describe a task when descriptions are not written or the task has none. -/
theorem descriptionLines_eq_nil_iff : descriptionLines options n = [] ↔
    options.includeDescriptions = false ∨ ∀ d ∈ n.description, d = "" := by
  rw [descriptionLines]
  cases options.includeDescriptions with
  | false => simp
  | true =>
      cases n.description with
      | none => simp
      | some d =>
          by_cases hd : d = ""
          · simp [hd]
          · simp [hd, descriptionComment]

/-- The graph that is read has one task of the name of a disabled one. It is disabled too, and has
the lines of the disabled task below its description, so that both have the same lines exactly when
no description is written. -/
structure ReadFromStub (g : Graph) (options : ExportOptions) (n : Node) (read : Graph) (m : Node) :
    Prop where
  mem : m ∈ read.nodes
  only : ∀ other ∈ read.nodes, other.identifier = n.identifier ↔ other = m
  disabled : m.enabled = false
  lines : taskBlock g (registeredOf g options) options n =
    descriptionLines options n ++ taskBlock read (registeredOf read options) options m
  same : taskBlock read (registeredOf read options) options m =
      taskBlock g (registeredOf g options) options n ↔
    options.includeDescriptions = false ∨ ∀ d ∈ n.description, d = ""

/-- What is found in the script of a graph is put together to a graph with a task for each stub. -/
theorem readFromStub_of_found (h : g.WellFormed) (hstub : isStub options n = true)
    (hn : n ∈ emittedNodes g options) (hfound : foundIn g options = .ok f) :
    ReadFromStub g options n (assemble f).graph (blockNode (stubBlock n 0)) := by
  obtain ⟨hblocks, hfresh⟩ := blocks_of_foundIn h.vars hfound
  obtain ⟨hnamed, hnames⟩ := named_of_names h (mapM_readTask_names hblocks)
  have hnodes := assemble_nodes hnamed (fun b _ => hfresh b.name) hnames
  have hmem : stubBlock n 0 ∈ f.blocks := by
    obtain ⟨b, hb, hread⟩ := exists_of_mapM_eq_ok hblocks hn
    rw [readTask, if_pos hstub] at hread
    exact Except.ok.inj hread ▸ hb
  have hlines := @taskBlock_stub g options (registeredOf g options) n hstub (assemble f).graph
    (registeredOf (assemble f).graph options)
  exact {
    mem := hnodes ▸ List.mem_map_of_mem hmem
    only := by
      rw [hnodes]
      intro other hother
      obtain ⟨b, hb, rfl⟩ := List.mem_map.1 hother
      refine ⟨fun heq => ?_, fun heq => heq ▸ to_identifier_to_identifier n.name⟩
      have hname : b.name = (stubBlock n 0).name := (hnamed b hb).1.symm.trans heq
      rw [List.inj_on_of_nodup_map hnames hb hmem hname]
    disabled := rfl
    lines := hlines
    same := by rw [hlines, List.self_eq_append_left, descriptionLines_eq_nil_iff] }

/-- The script of a graph that changes lead to, in which stubs stand for disabled tasks, is read to
a graph in which every disabled task has come back with its lines below the description, unless an
integer of an enabled task stops the reading. -/
theorem stub_written_again (hreachable : g.Reachable) (hstyle : options.disabledTasks = .comment)
    (hharmless : Harmless g options) (now : Timestamp) (hn : n ∈ g.nodes)
    (hdisabled : n.enabled = false) :
    (∃ stop, readScript (g.script options now) {} = .error stop ∧ ∃ m ∈ g.nodes,
      m.enabled = true ∧ readTask g (registeredOf g options) options m = .error stop) ∨
    ∃ r m, readScript (g.script options now) {} = .ok r ∧ ReadFromStub g options n r.graph m := by
  have h := hreachable.well_formed
  rw [readScript_eq h now hharmless]
  cases hfound : foundIn g options with
  | error stop =>
      refine .inl ⟨stop, rfl, ?_⟩
      obtain ⟨m, hm, hread⟩ := exists_of_mapM_eq_error (tasks_of_foundIn_eq_error hfound)
      refine ⟨m, ((mem_emittedNodes h.nodes.ids).1 hm).1, ?_, hread⟩
      -- a stub is read whatever it stands for
      by_contra hoff
      rw [readTask, if_pos (by simp [isStub, hoff, hstyle])] at hread
      cases hread
  | ok f =>
      have hstub : isStub options n = true := by simp [isStub, hdisabled, hstyle]
      have hemitted : n ∈ emittedNodes g options :=
        (mem_emittedNodes h.nodes.ids).2 ⟨hn, .inr (by simp [hstyle])⟩
      exact .inr ⟨assemble f, _, rfl, readFromStub_of_found h hstub hemitted hfound⟩

/-- A disabled request without a description next to a task with one. -/
theorem stub_written_again_request :
    let build : Node := { id := "a", name := "build", description := some "all of it" }
    let ask : Node := { id := "b", name := "ask him", enabled := false
                        step := .httpRequest { url := "https://x.io" } }
    let g : Graph := [GraphChange.addNode build, .addNode ask].foldl Graph.after Graph.empty
    g.nodes = [build, ask] ∧ ∃ r m, readScript (g.script {} ⟨0, none⟩) {} = .ok r ∧
      ReadFromStub g {} ask r.graph m ∧
      taskBlock r.graph (registeredOf r.graph {}) {} m =
        taskBlock g (registeredOf g {}) {} ask := by
  intro build ask g
  have hnodes : g.nodes = [build, ask] := by decide +kernel
  have hreachable : g.Reachable := ⟨_, rfl⟩
  have hharmless : Harmless g {} := by
    refine harmless_of_nodes hreachable.well_formed rfl ?_
    rw [hnodes]
    decide
  have hask : ask ∈ g.nodes := by simp [hnodes]
  rcases @stub_written_again g {} ask hreachable rfl hharmless ⟨0, none⟩ hask rfl with hstop | hread
  · obtain ⟨stop, -, m, hm, henabled, hstop⟩ := hstop
    rw [hnodes] at hm
    rcases List.mem_pair.1 hm with rfl | rfl
    · have hbuild : Scriptable build := ⟨trivial, trivial, by simp [build, Printable]⟩
      rw [readTask_eq hbuild] at hstop
      cases hstop
    · cases henabled
  · obtain ⟨r, m, hread, hstub⟩ := hread
    exact ⟨hnodes, r, m, hread, hstub, hstub.same.2 (.inr (by simp [ask]))⟩

/-- A disabled task with a description is read back without it, and has other lines then. -/
theorem described_stub_loses_lines :
    let task : Node := { id := "a", name := "a", description := some "x", enabled := false }
    let g : Graph := [GraphChange.addNode task].foldl Graph.after Graph.empty
    let stub := ["// Task disabled in visual editor", "// tasks.register(\"a\") \x7b ... \x7d", ""]
    let lines := fun g : Graph => g.nodes.map (taskBlock g (registeredOf g {}) {})
    g.Reachable ∧ lines g = [["/**", " * x", " */"] ++ stub] ∧
      (readScript (g.script {} ⟨0, none⟩) {}).map (fun r => lines r.graph) = .ok [stub] := by
  intro task g stub lines
  have hnodes : g.nodes = [task] := by decide +kernel
  have hreachable : g.Reachable := ⟨_, rfl⟩
  have hharmless : Harmless g {} := by
    refine harmless_of_nodes hreachable.well_formed rfl ?_
    rw [hnodes]
    decide
  refine ⟨hreachable, by decide +kernel, ?_⟩
  rw [readScript_eq hreachable.well_formed ⟨0, none⟩ hharmless]
  decide +kernel

end BuildGraph.Script
