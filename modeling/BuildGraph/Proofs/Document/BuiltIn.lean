import BuildGraph.Proofs.Document.RoundTrip
import BuildGraph.Script.Layout

/-!
# Built-in variables of graphs that are read

A document may declare variables with the names of built-in ones; those that it leaves out are
added. What a graph refuses to rename, to remove or to write down depends on whether a variable says
that it is built in, so a built-in variable that is declared is protected as far as its declaration
says so, and a protected one stays so whatever changes follow.
-/

namespace BuildGraph.Graph

open BuildGraph.Text BuildGraph.Script Document

variable {g g' : Graph} {vars vars' : List Variable} {v : Variable} {name : String}

section Changes

/-- What a change makes of the variables. -/
inductive VariablesChange (vars : List Variable) : List Variable → Prop
  | same : VariablesChange vars vars
  | declared (v : Variable) (hnamed : isVariableName v.name = true)
      (hfree : ∀ other ∈ vars, other.name ≠ v.name) : VariablesChange vars (vars ++ [v])
  | valued {v : Variable} (hv : v ∈ vars) (value : Option String) :
      VariablesChange vars
        (vars.map fun other => if other.name = v.name then { v with value } else other)
  | renamed {v : Variable} (hv : v ∈ vars) (huser : v.isSystem = false) {new : String}
      (hnamed : isVariableName new = true) (hfree : ∀ other ∈ vars, other.name ≠ new) :
      VariablesChange vars
        (vars.map fun other => if other.name = v.name then { v with name := new } else other)
  | removed {v : Variable} (hv : v ∈ vars) (huser : v.isSystem = false) :
      VariablesChange vars (vars.filter fun other => decide (other.name ≠ v.name))

/-- Four of the changes are made of the variables, and the others leave them alone. -/
theorem variables_change {change : GraphChange} (h : change.apply g = .ok g') :
    VariablesChange g.vars g'.vars := by
  cases change with
  | addNode n =>
      obtain ⟨-, -, -, rfl⟩ := add_node_eq_ok_iff.1 h
      exact .same
  | updateNode id change =>
      obtain ⟨_, _, -, -, -, -, -, rfl, -⟩ := update_node_eq_ok h
      exact .same
  | removeNode id =>
      obtain rfl := remove_node_eq_ok h
      exact .same
  | addEdge source target relation =>
      obtain ⟨-, -, -, rfl⟩ := add_edge_eq_ok_iff.1 h
      exact .same
  | removeEdge source target relation =>
      obtain ⟨-, rfl⟩ := remove_edge_eq_ok h
      exact .same
  | updateEdgeRelation source target relation new =>
      obtain ⟨_, hremoved, hadded⟩ := bind_eq_ok_iff.1 h
      obtain ⟨-, rfl⟩ := remove_edge_eq_ok hremoved
      obtain ⟨-, -, -, rfl⟩ := add_edge_eq_ok_iff.1 hadded
      exact .same
  | addGroup group =>
      obtain ⟨-, -, -, -, -, rfl⟩ := add_group_eq_ok_iff.1 h
      exact .same
  | renameGroup id name =>
      obtain ⟨_, -, -, -, -, -, rfl⟩ := rename_group_eq_ok h
      exact .same
  | removeGroup id =>
      obtain rfl := remove_group_eq_ok h
      exact .same
  | assignToGroup id nodeIds =>
      obtain ⟨-, -, rfl⟩ := assign_to_group_eq_ok_iff.1 h
      exact .same
  | removeFromGroup id nodeIds =>
      obtain ⟨_, -, -, rfl⟩ := remove_from_group_eq_ok h
      exact .same
  | addVariable v =>
      obtain ⟨hnamed, hfree, -, -, rfl⟩ := add_variable_eq_ok_iff.1 h
      exact .declared v hnamed hfree
  | updateVariableValue name value =>
      obtain ⟨v, hv, rfl, -, rfl⟩ := update_variable_value_eq_ok h
      exact .valued hv value
  | renameVariable name new =>
      rcases rename_variable_eq_ok h with rfl | ⟨v, hv, rfl, huser, hnamed, hfree, rfl⟩
      · exact .same
      · exact .renamed hv huser hnamed hfree
  | removeVariable name =>
      obtain ⟨v, hv, rfl, huser, rfl⟩ := remove_variable_eq_ok h
      exact .removed hv huser

/-- Names of variables stay distinct. -/
theorem VariablesChange.names (h : VariablesChange vars vars')
    (hnames : (vars.map Variable.name).Nodup) : (vars'.map Variable.name).Nodup := by
  have hsame : ∀ {v : Variable}, ∀ a ∈ vars, ∀ b ∈ vars, a.name = v.name →
      b.name = v.name → a = b := fun a ha b hb hav hbv =>
    List.inj_on_of_nodup_map hnames ha hb (hav.trans hbv.symm)
  cases h with
  | same => exact hnames
  | declared v hname hfree =>
      rw [List.map_append, List.map_singleton]
      exact hnames.append (by simp) (by simpa using hfree)
  | valued hv value => exact nodup_map_replace hnames hsame fun _ _ hne => hne
  | renamed hv huser hname hfree =>
      exact nodup_map_replace hnames hsame fun other hother _ => hfree other hother
  | removed hv huser => exact hnames.sublist (List.filter_sublist.map _)

/-- Names of variables stay well formed. -/
theorem VariablesChange.named (h : VariablesChange vars vars')
    (hnamed : ∀ v ∈ vars, isVariableName v.name = true) :
    ∀ v ∈ vars', isVariableName v.name = true := by
  cases h with
  | same => exact hnamed
  | declared v hname hfree => simpa [or_imp, forall_and, hname] using hnamed
  | @valued v hv value => exact forall_mem_replace hnamed (hnamed v hv)
  | renamed hv huser hname hfree => exact forall_mem_replace hnamed hname
  | removed hv huser => exact fun other hother => hnamed other (List.mem_filter.1 hother).1

/-- A variable that says that it is built in is among variables with distinct well-formed names, its
value apart. -/
structure Keeps (vars : List Variable) (v : Variable) : Prop where
  system : v.isSystem = true
  names : (vars.map Variable.name).Nodup
  named : ∀ w ∈ vars, isVariableName w.name = true
  there : ∃ value, { v with value } ∈ vars

/-- No change takes away more of a built-in variable than its value. -/
theorem Keeps.change (h : Keeps vars v) (hchange : VariablesChange vars vars') :
    Keeps vars' v where
  system := h.system
  names := hchange.names h.names
  named := hchange.named h.named
  there := by
    cases hchange with
    | same => exact h.there
    | declared w hname hfree => exact h.there.imp fun _ hvalue => List.mem_append_left _ hvalue
    | valued hw value => exact exists_value_of_replace h.names h.system h.there hw fun _ => rfl
    | renamed hw huser hname hfree =>
        refine exists_value_of_replace h.names h.system h.there hw fun hbuiltIn => ?_
        rw [huser] at hbuiltIn
        cases hbuiltIn
    | removed hw huser => exact exists_value_of_remove h.names h.system h.there hw huser

/-- A built-in variable is kept whatever changes are tried. -/
theorem Keeps.after (h : Keeps g.vars v) (changes : List GraphChange) :
    Keeps (changes.foldl after g).vars v := by
  induction changes generalizing g with
  | nil => exact h
  | cons change changes ih =>
      refine ih ?_
      rw [Graph.after]
      split
      · next g' happly => exact h.change (variables_change happly)
      · exact h

end Changes

section Protection

/-- A variable is found under its name when names are distinct. -/
theorem get_variable_of_mem (hnames : (g.vars.map Variable.name).Nodup) (hv : v ∈ g.vars) :
    g.getVariable v.name = .ok v := by
  rw [getVariable]
  split
  · next found hfound =>
      have hname : found.name = v.name := by simpa using List.find?_some hfound
      rw [List.inj_on_of_nodup_map hnames (List.mem_of_find?_eq_some hfound) hv hname]
  · next hnone => simpa using List.find?_eq_none.1 hnone v hv

/-- A name that a variable may have holds no colon. -/
theorem colon_not_mem_of_isVariableName (h : isVariableName name = true) :
    ':' ∉ name.toList := by
  rw [isVariableName] at h
  intro hmem
  cases hname : name.toList with
  | nil => simp [hname] at hmem
  | cons c rest =>
      rw [hname] at h hmem
      simp only [isIdentifierLine, Bool.and_eq_true, Bool.or_eq_true, beq_iff_eq,
        List.all_eq_true] at h
      obtain ⟨hstart, hrest⟩ := h
      rcases List.mem_cons.1 hmem with rfl | hmem
      · exact absurd hstart (by decide)
      · rcases hrest with hall | ⟨hlast, hall⟩
        · exact absurd (hall _ hmem) (by decide)
        · rw [← List.dropLast_append_getLast? _ hlast, List.mem_append] at hmem
          rcases hmem with hmem | hmem
          · exact absurd (hall _ hmem) (by decide)
          · exact absurd hmem (by decide)

/-- A declaration tells which variable is declared. -/
theorem name_eq_of_variableLine_eq {w : Variable} (hv : isVariableName v.name = true)
    (hw : isVariableName w.name = true) (h : variableLine v = variableLine w) :
    v.name = w.name := by
  have hsplit : ∀ u : Variable, isVariableName u.name = true →
      ((variableLine u).toList.drop 4).takeWhile (· != ':') = u.name.toList := by
    intro u hu
    have hplain : ∀ c ∈ u.name.toList, (c != ':') = true := by
      intro c hc
      rw [bne_iff_ne]
      rintro rfl
      exact colon_not_mem_of_isVariableName hu hc
    simp [variableLine, List.takeWhile_append_of_pos hplain]
  rw [← String.toList_inj, ← hsplit v hv, ← hsplit w hw, h]

/-- A line that declares a variable is that of one of the given ones. -/
theorem exists_of_variableLine_mem {options : ExportOptions}
    (h : variableLine v ∈ variableLines options vars) :
    ∃ w ∈ vars, variableLine v = variableLine w := by
  have hval : (variableLine v).toList.head? = some 'v' := by simp [variableLine]
  rw [variableLines] at h
  split at h
  · cases h
  · simp only [List.mem_append, flagLine, List.mem_singleton] at h
    rcases h with (hcomment | hline) | hblank
    · split at hcomment
      · rw [List.mem_singleton.1 hcomment] at hval
        exact absurd hval (by decide)
      · cases hcomment
    · obtain ⟨w, hw, heq⟩ := List.mem_map.1 hline
      exact ⟨w, hw, heq.symm⟩
    · rw [hblank] at hval
      exact absurd hval (by decide)

/-- The graph holds the variable, its value apart, neither renames nor removes it, and does not
declare it in a script. -/
structure Protected (g : Graph) (v : Variable) : Prop where
  there : ∃ value, g.getVariable v.name = .ok { v with value }
  renamed : ∀ new, g.renameVariable v.name new = .error (.systemVariable v.name "renamed")
  removed : g.removeVariable v.name = .error (.systemVariable v.name "deleted")
  unwritten : ∀ options, ∀ w : Variable, w.name = v.name →
    variableLine w ∉ variableLines options g.userVariables

/-- The graph renames the variable, removes it, and declares it in a script that declares
variables. -/
structure Unprotected (g : Graph) (v : Variable) : Prop where
  renamed : ∀ new, isVariableName new = true → (∀ w ∈ g.vars, w.name ≠ new) →
    ∃ g', g.renameVariable v.name new = .ok g'
  removed : ∃ g', g.removeVariable v.name = .ok g' ∧ ∀ w ∈ g'.vars, w.name ≠ v.name
  written : ∀ options : ExportOptions, options.variableFormat = .properties →
    variableLine v ∈ variableLines options g.userVariables

theorem Keeps.is_protected (h : Keeps g.vars v) : Protected g v := by
  obtain ⟨hsystem, hnames, hnamed, value, hvalue⟩ := h
  have hfound : g.getVariable v.name = .ok { v with value } := get_variable_of_mem hnames hvalue
  refine ⟨⟨value, hfound⟩, fun new => ?_, ?_, fun options w hw hline => ?_⟩
  · simp [renameVariable, hfound, hsystem, bind, Except.bind, throw, throwThe,
      MonadExceptOf.throw]
  · simp [removeVariable, hfound, hsystem, bind, Except.bind, throw, throwThe,
      MonadExceptOf.throw]
  · -- a line tells the name that it declares, so it would be that of this variable
    obtain ⟨u, hu, hlines⟩ := exists_of_variableLine_mem hline
    obtain ⟨hmem, huser⟩ := List.mem_filter.1 hu
    have hname : w.name = u.name :=
      name_eq_of_variableLine_eq (hw ▸ hnamed { v with value } hvalue) (hnamed u hmem) hlines
    have hsame := List.inj_on_of_nodup_map hnames hvalue hmem (hw.symm.trans hname)
    rw [← hsame] at huser
    simp [hsystem] at huser

theorem unprotected_of_mem (hnames : (g.vars.map Variable.name).Nodup) (hv : v ∈ g.vars)
    (huser : v.isSystem = false) : Unprotected g v := by
  have hfound := get_variable_of_mem hnames hv
  refine ⟨fun new hnew hfree => ?_, ?_, fun options hformat => ?_⟩
  · have hne : new ≠ v.name := (hfree v hv).symm
    have hany : (g.vars.any fun other => other.name == new) = false := by simpa using hfree
    simp [renameVariable, hfound, huser, bind, Except.bind, pure, Except.pure, hne, hnew, hany]
  · refine ⟨{ g with vars := g.vars.filter fun other => decide (other.name ≠ v.name) }, ?_, ?_⟩
    · simp [removeVariable, hfound, huser, bind, Except.bind, pure, Except.pure]
    · exact fun w hw => of_decide_eq_true (List.mem_filter.1 hw).2
  · have hmem : v ∈ g.userVariables := List.mem_filter.2 ⟨hv, by simp [huser]⟩
    rw [variableLines, if_neg]
    · simp [List.mem_map_of_mem hmem]
    · simp [hformat, List.ne_nil_of_mem hmem]

end Protection

section Reading

/-- Variables of all names that are missing come behind those that are there, in their order. -/
theorem vars_of_missing {declared : List String}
    (h : vars.foldlM (fun g v => if v.name ∈ declared then .ok g else g.addVariable v) g = .ok g') :
    g' = { g with vars := g.vars ++ vars.filter fun v => decide (v.name ∉ declared) } := by
  induction vars generalizing g with
  | nil =>
      obtain rfl : g = g' := by simpa [pure, Except.pure] using h
      simp
  | cons v vars ih =>
      rw [List.foldlM_cons] at h
      obtain ⟨next, hnext, h⟩ := bind_eq_ok_iff.1 h
      split_ifs at hnext with hmem
      · obtain rfl := Except.ok.inj hnext
        simpa [hmem] using ih h
      · obtain ⟨-, -, -, -, rfl⟩ := add_variable_eq_ok_iff.1 hnext
        simpa [hmem] using ih h

/-- Declared variables come behind those that are there, in their order. -/
theorem vars_of_declared (h : vars.foldlM addVariable g = .ok g') :
    g' = { g with vars := g.vars ++ vars } := by
  have hmissing : vars.foldlM (fun g v =>
      if v.name ∈ ([] : List String) then .ok g else g.addVariable v) g = .ok g' := by
    simpa using h
  simpa using vars_of_missing hmissing

/-- The variables of a rebuilt graph are the given ones, with the built-in ones behind them that
have other names. -/
theorem vars_of_rebuild {nodes : List Node} {edges : List Edge} {groups : List Group}
    (h : rebuild vars nodes edges groups = .ok g) :
    g.vars = vars ++ systemVariables.filter fun s => decide (s.name ∉ vars.map Variable.name) := by
  simp only [rebuild, bind_eq_ok_iff] at h
  obtain ⟨g₁, hvars, g₂, hbuiltIn, g₃, hnodes, g₄, hedges, hgroups⟩ := h
  obtain rfl := vars_of_declared hvars
  have hmissing := congrArg Graph.vars (vars_of_missing hbuiltIn)
  have hkept : g.vars = g₂.vars := by
    refine foldlM_keeps (P := fun g => g.vars = g₂.vars) ?_ ?_ hgroups
    · intro g group g' hg hadd
      obtain ⟨-, -, -, -, -, rfl⟩ := add_group_eq_ok_iff.1 hadd
      exact hg
    refine foldlM_keeps (P := fun g => g.vars = g₂.vars) ?_ ?_ hedges
    · intro g e g' hg hadd
      obtain ⟨-, -, -, rfl⟩ := add_edge_eq_ok_iff.1 hadd
      exact hg
    refine foldlM_keeps (P := fun g => g.vars = g₂.vars) ?_ rfl hnodes
    intro g n g' hg hadd
    obtain ⟨-, -, -, rfl⟩ := add_node_eq_ok_iff.1 hadd
    exact hg
  simpa [bare] using hkept.trans hmissing

/-- The variables of a graph that a document is read to are those of the document, followed by the
built-in ones that it does not name. A built-in variable is protected, now and after any changes,
exactly when every declaration of its name in the document says that it is built in; it can be
renamed, removed and written to a script otherwise. -/
theorem built_in_variables_of_document {d : Document} (h : ofDocument d = .ok g) :
    ∃ declared, (d.fieldItems "variables").mapM Variable.ofDocument = .ok declared ∧
      g.vars = declared ++
        systemVariables.filter (fun s => decide (s.name ∉ declared.map Variable.name)) ∧
      ∀ s ∈ systemVariables, ∃ v ∈ g.vars, v.name = s.name ∧
        (s.name ∉ declared.map Variable.name → v = s) ∧
        (v.isSystem = true ↔ ∀ w ∈ declared, w.name = s.name → w.isSystem = true) ∧
        (v.isSystem = true → ∀ changes : List GraphChange, Protected (changes.foldl after g) v) ∧
        (v.isSystem = false → Unprotected g v) := by
  obtain ⟨declared, nodes, edges, groups, hread, hrebuild⟩ := rebuild_of_ofDocument h
  have hvars := vars_of_rebuild hrebuild
  obtain ⟨hsound, hthere, -, -, -⟩ := consistent_of_rebuild hrebuild
  refine ⟨declared, hread, hvars, fun s hs => ?_⟩
  obtain ⟨v, hv, hname⟩ := List.mem_map.1 (hthere s hs)
  have hone : ∀ w ∈ g.vars, w.name = s.name → w = v := fun w hw heq =>
    List.inj_on_of_nodup_map hsound.names hw hv (heq.trans hname.symm)
  have hmissing : s.name ∉ declared.map Variable.name → v = s := fun hfree => by
    refine (hone s ?_ rfl).symm
    rw [hvars]
    exact List.mem_append_right _ (List.mem_filter.2 ⟨hs, decide_eq_true hfree⟩)
  refine ⟨v, hv, hname, hmissing, ⟨fun hsystem w hw heq => ?_, fun hall => ?_⟩,
    fun hsystem changes => ?_, unprotected_of_mem hsound.names hv⟩
  · rw [hone w (hvars ▸ List.mem_append_left _ hw) heq]
    exact hsystem
  · by_cases hdeclared : s.name ∈ declared.map Variable.name
    · obtain ⟨w, hw, heq⟩ := List.mem_map.1 hdeclared
      rw [← hone w (hvars ▸ List.mem_append_left _ hw) heq]
      exact hall w hw heq
    · rw [hmissing hdeclared]
      exact isSystem_of_mem_system_variables s hs
  · have hkeeps : Keeps g.vars v := ⟨hsystem, hsound.names, hsound.named, v.value, hv⟩
    exact (hkeeps.after changes).is_protected

/-- A document that declares `version` as a variable of its own and `buildDir` as a built-in one:
`version` may be removed; `buildDir` and `projectDir`, which it does not name, stay whatever is
tried. -/
theorem built_in_variables_of_document_version :
    let d : Document := object [("variables", list [
      object [("id", text "v"), ("name", text "version")],
      object [("id", text "b"), ("name", text "buildDir"), ("is_system", bool true)]])]
    let buildDir : Variable := { id := "b", name := "buildDir", isSystem := true }
    let version : Variable := { id := "v", name := "version" }
    let g : Graph := { vars := [version, buildDir] ++ systemVariables.take 1 }
    let changes : List GraphChange :=
      [.updateVariableValue "buildDir" (some "out"), .removeVariable "buildDir",
        .renameVariable "projectDir" "dir"]
    ofDocument d = .ok g ∧ Unprotected g version ∧ Protected (changes.foldl after g) buildDir := by
  intro d buildDir version g changes
  have hread : ofDocument d = .ok g := by decide +kernel
  obtain ⟨declared, -, -, hall⟩ := built_in_variables_of_document hread
  refine ⟨hread, ?_, ?_⟩
  · obtain ⟨v, hv, hname, -, -, -, hunprotected⟩ := hall _ (List.mem_of_getElem? (i := 2) rfl)
    have heq : ∀ v ∈ g.vars, v.name = "version" → v = version := by decide +kernel
    obtain rfl := heq v hv hname
    exact hunprotected rfl
  · obtain ⟨v, hv, hname, -, -, hprotected, -⟩ := hall _ (List.mem_of_getElem? (i := 1) rfl)
    have heq : ∀ v ∈ g.vars, v.name = "buildDir" → v = buildDir := by decide +kernel
    obtain rfl := heq v hv hname
    exact hprotected rfl changes

/-- A document that declares `projectDir` without saying that it is built in gives a graph that
removes it. -/
theorem declared_built_in_removed :
    let d : Document := object [("variables", list [
      object [("id", text "v1"), ("name", text "projectDir")]])]
    let builtIn := systemVariables.drop 1
    ∃ g, ofDocument d = .ok g ∧ g.removeVariable "projectDir" = .ok { vars := builtIn } := by
  refine ⟨{ vars := { id := "v1", name := "projectDir" } :: systemVariables.drop 1 }, ?_, ?_⟩ <;>
    decide +kernel

end Reading

end BuildGraph.Graph
