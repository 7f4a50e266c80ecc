import BuildGraph.Proofs.Script.Accounted
import BuildGraph.Proofs.Script.Recovered
import BuildGraph.Proofs.Variables.References

/-!
# Declarations of variables

Three readers know what a name is: the one that checks the name of a variable, the one that finds
references in texts and the one that reads scripts. They agree on all names but those that end in a
line break, which the check overlooks. `isIdentifier_iff` compares the first two, and
`declaration_spec` says for all three which variables can be referred to and come back from a
script.
-/

namespace BuildGraph

open Script (isIdentifier)

section Names

/-- The names of variables that do not end in a line break are the identifiers. -/
theorem isIdentifier_iff {name : String} : isIdentifier name.toList = true ↔
    isVariableName name = true ∧ name.toList.getLast? ≠ some '\n' := by
  constructor
  · intro h
    refine ⟨?_, fun hlast => ?_⟩
    · rw [isVariableName]
      cases hname : name.toList with
      | nil =>
          rw [hname] at h
          cases h
      | cons c rest =>
          rw [hname, isIdentifier, Bool.and_eq_true] at h
          rw [isIdentifierLine, h.1, h.2]
          rfl
    · have := isIdentifierChar_of_mem h (List.mem_of_getLast? hlast)
      cases this
  · rintro ⟨hname, hlast⟩
    refine (Script.isIdentifier_or_of_isVariableName hname).resolve_right ?_
    rintro ⟨front, -, rfl⟩
    simp at hlast

/-- The reference to a name is found, and found to be a reference to the name, if the name is an
identifier. -/
theorem references_referenceTo_iff {name : String} :
    references (referenceTo name) = [name] ↔ isIdentifier name.toList = true := by
  constructor
  · intro h
    have hmem : name ∈ references (referenceTo name) := by simp [h]
    exact (mem_references_iff.1 hmem).1
  · intro h
    have hpieces := pieces_append_referenceTo h "" ""
    rw [String.empty_append, String.append_empty] at hpieces
    rw [references, hpieces]
    simp [pieces, piecesFrom, referencedNames, firsts]

end Names

namespace Script

open BuildGraph.Number

section Reading

variable {f found : Findings} {vars : List Variable} {v : Variable}

/-- Adding tasks and their relations leaves the variables as they were declared. -/
theorem assemble_vars (f : Findings) :
    (assemble f).graph.vars = (declareVariables f.vars
      { graph := Graph.empty, errors := f.errors, warnings := f.warnings }).graph.vars := by
  generalize hdeclared : declareVariables f.vars
    { graph := Graph.empty, errors := f.errors, warnings := f.warnings } = r
  obtain ⟨failed, hbuilt, hadd⟩ := addNodes_sorts f.blocks f.ids r
  generalize hadded : addNodes f.blocks f.ids r = result at hbuilt hadd
  obtain ⟨r', built⟩ := result
  have hnames : ∀ b ∈ built, b.2.name = b.1.name := by
    intro b hb
    obtain ⟨id, hid⟩ := (hbuilt.left_of_mem b hb).2
    rw [hid]
    rfl
  obtain ⟨joined, remarked, -, hfold⟩ := joined_blocks hnames r'
  have hvars : r'.graph.vars = r.graph.vars := by
    rw [show r' = _ from hadd]
    simp [reading_append]
  rw [assemble]
  dsimp only
  rw [hdeclared, hadded]
  dsimp only
  rw [hfold, ← hvars]
  split_ifs <;> simp [reading_append]

/-- Variables that are found under distinct names, none of them built in, are the user variables of
the graph that is put together. -/
theorem userVariables_assemble (hfound : f.vars = vars.map declared)
    (hnamed : ∀ v ∈ vars, isVariableName v.name = true) (hnames : (vars.map Variable.name).Nodup)
    (hfree : ∀ v ∈ vars, v.name ∉ systemVariables.map Variable.name) :
    (assemble f).graph.userVariables = vars.map declared := by
  refine userVariables_eq ?_ fun w hw => by
    obtain ⟨v, -, rfl⟩ := List.mem_map.1 hw
    rfl
  have hnodup : ((systemVariables ++ vars.map declared).map Variable.name).Nodup := by
    rw [List.map_append, List.map_map]
    refine List.Nodup.append (by decide) hnames ?_
    intro name hsystem hdeclared
    obtain ⟨v, hv, rfl⟩ := List.mem_map.1 hdeclared
    exact hfree v hv hsystem
  rw [assemble_vars, hfound, declareVariables_eq ?_ hnodup (variableIds_nodup hnames)]
  · rfl
  · intro w hw
    obtain ⟨v, hv, rfl⟩ := List.mem_map.1 hw
    exact ⟨hnamed v hv, text_fault _, fun value hvalue => by cases hvalue⟩

/-- No variable is declared under the name of a built-in one. -/
theorem userVariables_assemble_builtIn (hfound : f.vars = [declared v])
    (hname : v.name ∈ systemVariables.map Variable.name) :
    (assemble f).graph.userVariables = [] := by
  have hrefused : ∀ graph, Graph.empty.addVariable (declared v) ≠ .ok graph := by
    intro graph hadd
    obtain ⟨s, hs, heq⟩ := List.mem_map.1 hname
    exact (Graph.add_variable_eq_ok_iff.1 hadd).2.1 s hs heq
  rw [Graph.userVariables, assemble_vars, hfound, declareVariables]
  dsimp only
  split
  · next graph hadd => exact absurd hadd (hrefused graph)
  · rfl

/-- Lines that can be read at the top of a script and hold no task are read by themselves. -/
theorem Section.readScript {lines : List String} {text : String}
    {act : Findings → Except IntegerStop Findings} (h : Section lines act)
    (htext : text.toList = textOf lines) (hact : act { ids := {} } = .ok found)
    (hblocks : found.blocks = []) : readScript text {} = .ok (assemble found) := by
  obtain ⟨hfaults, hread⟩ := h.read .feed htext { ids := {} }
  rw [LineEnd.respell_feed] at hfaults hread
  have hstart : Findings.unlined { ids := {} } = { ids := {} } := rfl
  rw [hstart, hact] at hread
  cases hfound : readTokens text 0 none { ids := {} } (scan text).tokens with
  | error stop =>
      rw [hfound] at hread
      cases hread
  | ok f =>
      rw [hfound] at hread
      have hunlined : f.unlined = found := Except.ok.inj hread
      have hnone : f.blocks = [] := by
        rw [← hunlined] at hblocks
        exact List.map_eq_nil_iff.1 hblocks
      have hsame : f = found := by
        rw [← hunlined, Findings.unlined, hnone, List.map_nil, ← hnone]
      rw [BuildGraph.readScript]
      simp only [hfaults, List.map_nil, hfound, hsame]
      rfl

/-- A declaration alone is read to its variable, unless a line break in its name tears it or its
name is built in. -/
theorem readScript_variableLine (hname : isVariableName v.name = true) :
    ∃ r, readScript (variableLine v ++ "\n") {} = .ok r ∧ r.graph.userVariables =
      if v.name.toList.getLast? = some '\n' ∨ v.name ∈ systemVariables.map Variable.name then []
      else [declared v] := by
  have hsection := section_variables (List.forall_mem_singleton.2 hname)
  have hkept : ((keptVariables [v]).map Variable.name).Nodup :=
    (List.nodup_singleton v.name).sublist (List.filter_sublist.map _)
  have hfound : ∃ found : Findings,
      (keptVariables [v]).foldl (fun f v => withVariable v f) { ids := {} } = found ∧
        found.blocks = [] ∧ found.vars = (keptVariables [v]).map declared :=
    ⟨_, foldl_withVariable (by simp) hkept, rfl, rfl⟩
  obtain ⟨found, hact, hblocks, hvars⟩ := hfound
  refine ⟨assemble found, hsection.readScript (by simp [textOf]) (congrArg Except.ok hact) hblocks,
    ?_⟩
  by_cases htorn : v.name.toList.getLast? = some '\n'
  · have hnone : keptVariables [v] = [] :=
      List.filter_eq_nil_iff.2 <|
        List.forall_mem_singleton.2 fun h => (isIdentifier_iff.1 h).2 htorn
    rw [if_pos (.inl htorn)]
    rw [hnone] at hvars
    exact userVariables_assemble hvars (by simp) .nil (by simp)
  · have hall : keptVariables [v] = [v] :=
      List.filter_eq_self.2 <| List.forall_mem_singleton.2 <| isIdentifier_iff.2 ⟨hname, htorn⟩
    rw [hall] at hvars
    by_cases hbuiltIn : v.name ∈ systemVariables.map Variable.name
    · rw [if_pos (.inr hbuiltIn)]
      exact userVariables_assemble_builtIn hvars hbuiltIn
    · rw [if_neg (by simp [htorn, hbuiltIn])]
      exact userVariables_assemble hvars (by simpa using hname) (by simp) (by simpa using hbuiltIn)

/-- The script of a graph is read to the variables of which the declarations are not torn, if it is
read. -/
theorem userVariables_readScript {g : Graph} {options : ExportOptions} {now : Timestamp}
    {r : ScriptReading} (h : g.WellFormed) (hharmless : Harmless g options)
    (hread : readScript (g.script options now) {} = .ok r) :
    r.graph.userVariables =
      (keptVariables (declaredVariables options g.userVariables)).map declared := by
  rw [readScript_eq h now hharmless] at hread
  cases hfound : foundIn g options with
  | error stop =>
      rw [hfound] at hread
      cases hread
  | ok f =>
      rw [hfound] at hread
      obtain rfl : assemble f = r := Except.ok.inj hread
      have hsub : ∀ v ∈ keptVariables (declaredVariables options g.userVariables),
          v ∈ g.userVariables := fun v hv =>
        (declaredVariables_sublist options _).subset (List.mem_of_mem_filter hv)
      refine userVariables_assemble ?_
        (fun v hv => h.vars.named v (List.mem_of_mem_filter (hsub v hv))) (kept_names_nodup h.vars)
        fun v hv hname => ?_
      · rw [foundIn, foldl_withVariable (by simp) (kept_names_nodup h.vars)] at hfound
        obtain ⟨blocks, -, hf⟩ := bind_eq_ok_iff.1 hfound
        rw [← Except.ok.inj hf]
        rfl
      · obtain ⟨s, hs, heq⟩ := List.mem_map.1 hname
        exact name_ne_of_mem_userVariables h.vars (hsub v hv) hs heq

/-- Declared variables have their lines in the script. -/
theorem variableLine_mem_scriptLines {g : Graph} {options : ExportOptions} {now : Timestamp}
    (hv : v ∈ g.userVariables) (hformat : options.variableFormat = .properties) :
    variableLine v ∈ scriptLines g options now := by
  have hlines : variableLine v ∈ variableLines options g.userVariables := by
    rw [variableLines, if_neg (by simpa [hformat] using List.ne_nil_of_mem hv)]
    exact List.mem_append_left _ (List.mem_append_right _ (List.mem_map_of_mem hv))
  rw [scriptLines]
  simp [hlines]

end Reading

end Script

open Script

section Declarations

/-- The name and the default of a variable. -/
def Variable.declaration (v : Variable) : String × String := (v.name, v.defaultValue)

/-- Which variables can be referred to and come back. The reference to a name is found exactly if
the name is valid and does not end in a line break. The line that a script has for an accepted
variable of the user is read to the variable alone, with its name and its default, unless a line
break in the name tears the line or the name is built in. In a graph that changes lead to no name of
an accepted variable is built in, and the variable is read from the whole script exactly if its line
is not torn. -/
theorem declaration_spec (name : String) (g g' : Graph) (v : Variable) :
    (references (referenceTo name) = [name] ↔
      isVariableName name = true ∧ name.toList.getLast? ≠ some '\n') ∧
    (g.addVariable v = .ok g' → v.isSystem = false →
      (∀ options now, options.variableFormat = .properties →
        variableLine v ∈ scriptLines g' options now) ∧
      (∃ r, readScript (variableLine v ++ "\n") {} = .ok r ∧
        r.graph.userVariables.map Variable.declaration =
          if v.name.toList.getLast? = some '\n' ∨ v.name ∈ systemVariables.map Variable.name then []
          else [v.declaration]) ∧
      (g.Reachable → v.name ∉ systemVariables.map Variable.name ∧
        ∀ options now r, options.variableFormat = .properties → Harmless g' options →
          readScript (g'.script options now) {} = .ok r →
            (v.declaration ∈ r.graph.userVariables.map Variable.declaration ↔
              v.name.toList.getLast? ≠ some '\n'))) := by
  refine ⟨references_referenceTo_iff.trans isIdentifier_iff, ?_⟩
  intro hadd huser
  obtain ⟨hname, hfree, -, -, hg'⟩ := Graph.add_variable_eq_ok_iff.1 hadd
  have hmem : v ∈ g'.userVariables := by
    rw [hg', Graph.userVariables]
    simp [huser]
  refine ⟨fun options now => variableLine_mem_scriptLines hmem, ?_, fun hreachable => ?_⟩
  · obtain ⟨r, hread, hvars⟩ := readScript_variableLine hname
    refine ⟨r, hread, ?_⟩
    rw [hvars]
    split <;> rfl
  · have h := hreachable.well_formed
    have h' : g'.WellFormed := h.add_variable hadd
    refine ⟨fun hbuiltIn => ?_, fun options now r hformat hharmless hread => ?_⟩
    · obtain ⟨s, hs, heq⟩ := List.mem_map.1 hbuiltIn
      exact name_ne_of_mem_userVariables h'.vars hmem hs heq
    · have hall : declaredVariables options g'.userVariables = g'.userVariables := by
        rw [declaredVariables, if_neg (by simp [hformat])]
      rw [userVariables_readScript h' hharmless hread, hall, List.map_map]
      constructor
      · intro hkept
        obtain ⟨w, hw, heq⟩ := List.mem_map.1 hkept
        have hsame : w.name = v.name := congrArg Prod.fst heq
        rw [← hsame]
        exact (isIdentifier_iff.1 (List.mem_filter.1 hw).2).2
      · intro hlast
        exact List.mem_map.2 ⟨v, List.mem_filter.2 ⟨hmem, isIdentifier_iff.2 ⟨hname, hlast⟩⟩, rfl⟩

/-- A default with a quote, a dollar sign and a line break comes back. -/
theorem declaration_kept :
    let v : Variable := { id := "v", name := "tag_2", defaultValue := "\"$x\\\n" }
    ∃ r, readScript (variableLine v ++ "\n") {} = .ok r ∧
      r.graph.userVariables.map Variable.declaration = [("tag_2", "\"$x\\\n")] := by
  intro v
  have hadd : Graph.empty.addVariable v = .ok { Graph.empty with vars := systemVariables ++ [v] } :=
    by decide +kernel
  obtain ⟨r, hread, hvars⟩ := ((declaration_spec v.name _ _ v).2 hadd rfl).2.1
  exact ⟨r, hread, hvars.trans (by decide)⟩

/-- A name that ends in a line break is accepted, but no reference to it is found, and what is
written for its variable is read to no variable. -/
theorem declaration_torn :
    let v : Variable := { id := "v", name := "a\n", defaultValue := "x" }
    isVariableName v.name = true ∧ references (referenceTo v.name) ≠ [v.name] ∧
      (Graph.empty.addVariable v).toOption.isSome = true ∧ v.isSystem = false ∧
      (readScript (variableLine v ++ "\n") {}).map (fun r => r.graph.userVariables) = .ok [] := by
  decide +kernel

end Declarations

end BuildGraph
