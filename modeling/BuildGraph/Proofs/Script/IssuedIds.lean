import BuildGraph.Proofs.Graph.BuilderIds
import BuildGraph.Proofs.Script.Nodes
import BuildGraph.Proofs.Variables.Declarations

/-!
# Ids of what is read from a script

The variables of a script get their ids while its tokens are read, and the tasks when the graph is
put together, from one generator. So the ids of all nodes and variables of the graph are distinct,
those of the built-in variables among them (`readScript_ids_nodup`).

`ids_never_reused` says for all users of a generator that no id comes twice: whoever calls it,
builders of graphs and readings of scripts.
-/

namespace BuildGraph

namespace Script

open BuildGraph.Text

variable {f found : Findings} {text : String} {ids : IdGenerator} {r : ScriptReading}
  {blocks : List Block} {vars : List Variable}

/-- The ids of the variables that were found were issued, each once. -/
structure Findings.Issued (f : Findings) : Prop where
  nodup : (f.vars.map Variable.id).Nodup
  taken : ∀ v ∈ f.vars, v.id ∈ f.ids.issued
  lead : ∀ v ∈ f.vars, v.id.toList.head? = some 'v'

section Reading

theorem readBlock_vars {header : Registration} {body : List Token} {line : Nat}
    (h : readBlock text header body line f = .ok found) :
    found.vars = f.vars ∧ found.ids = f.ids := by
  rw [readBlock] at h
  split at h
  · cases h
    exact ⟨rfl, rfl⟩
  · dsimp only at h
    split at h
    · cases h
    · split at h
      · cases h
      · cases h
        exact ⟨rfl, rfl⟩

theorem head?_unique {preferred : String} {c : Char} (ids : IdGenerator)
    (h : preferred.toList.head? = some c) : (ids.unique preferred).1.toList.head? = some c := by
  obtain ⟨rest, hrest⟩ := ids.unique_begins preferred
  rw [← hrest, List.head?_append, h]
  rfl

/-- Whatever is recorded, an id is issued for a variable alone. -/
theorem Findings.Issued.record (h : f.Issued) {item : Item}
    (hrecord : record text f item = .ok found) : found.Issued := by
  cases item with
  | task item =>
      cases item with
      | block header body line =>
          obtain ⟨hvars, hids⟩ := readBlock_vars hrecord
          exact ⟨hvars ▸ h.nodup, by rw [hvars, hids]; exact h.taken, hvars ▸ h.lead⟩
      | broken header line cause =>
          cases hrecord
          exact ⟨h.nodup, h.taken, h.lead⟩
      | stub header line =>
          cases hrecord
          exact ⟨h.nodup, h.taken, h.lead⟩
  | overrun name =>
      cases hrecord
      exact ⟨h.nodup, fun v hv => List.mem_cons_of_mem _ (h.taken v hv), h.lead⟩
  | declaration name defaultValue =>
      have hfresh := f.ids.unique_fresh ("var_" ++ name)
      have hlead : (f.ids.unique ("var_" ++ name)).1.toList.head? = some 'v' :=
        head?_unique f.ids (by simp)
      cases hrecord
      refine ⟨?_, ?_, ?_⟩
      · rw [List.map_append, List.nodup_append]
        refine ⟨h.nodup, List.nodup_singleton _, ?_⟩
        intro id hid other hother heq
        obtain ⟨v, hv, rfl⟩ := List.mem_map.1 hid
        have hissued : other = (f.ids.unique ("var_" ++ name)).1 := List.mem_singleton.1 hother
        rw [← hissued, ← heq] at hfresh
        exact hfresh (h.taken v hv)
      · refine List.forall_mem_append.2 ⟨fun v hv => List.mem_cons_of_mem _ (h.taken v hv), ?_⟩
        exact List.forall_mem_singleton.2 List.mem_cons_self
      · exact List.forall_mem_append.2 ⟨h.lead, List.forall_mem_singleton.2 hlead⟩

theorem Findings.Issued.readTokens (h : f.Issued) {ts : List Token} {skip : Nat}
    {comment : Option String} (hread : readTokens text skip comment f ts = .ok found) :
    found.Issued := by
  rw [readTokens_eq_record] at hread
  generalize recognized skip comment ts = items at hread
  induction items generalizing f with
  | nil =>
      cases hread
      exact h
  | cons item items ih =>
      rw [List.foldlM_cons] at hread
      obtain ⟨next, hnext, hread⟩ := bind_eq_ok_iff.1 hread
      exact ih (h.record hnext) hread

end Reading

section Assembling

/-- Of the variables that were found some become variables of the graph. -/
theorem declareVariables_sublist (vars : List Variable) (r : ScriptReading) :
    ∃ kept, kept.Sublist vars ∧ (declareVariables vars r).graph.vars = r.graph.vars ++ kept := by
  induction vars generalizing r with
  | nil => exact ⟨[], .slnil, by simp [declareVariables]⟩
  | cons v vars ih =>
      rw [declareVariables]
      split
      · next graph hadd =>
          obtain ⟨-, -, -, -, rfl⟩ := Graph.add_variable_eq_ok_iff.1 hadd
          obtain ⟨kept, hkept, heq⟩ :=
            ih { r with graph := { r.graph with vars := r.graph.vars ++ [v] } }
          exact ⟨v :: kept, hkept.cons_cons v, by rw [heq]; simp⟩
      · next cause hadd =>
          obtain ⟨kept, hkept, heq⟩ :=
            ih { r with warnings := r.warnings ++ [.variableIgnored v.name cause] }
          exact ⟨kept, hkept.cons v, heq⟩

/-- The variables of a graph that was read have distinct ids, which were issued unless they are
built in. -/
theorem assemble_vars_nodup (h : found.Issued) :
    ((assemble found).graph.vars.map Variable.id).Nodup ∧
      ∀ v ∈ (assemble found).graph.vars, v.id ∈ found.ids.issued ∨ v ∈ systemVariables := by
  obtain ⟨kept, hkept, heq⟩ := declareVariables_sublist found.vars
    { graph := Graph.empty, errors := found.errors, warnings := found.warnings }
  rw [assemble_vars, heq]
  constructor
  · rw [List.map_append, List.nodup_append]
    refine ⟨?_, (hkept.map Variable.id).nodup h.nodup, ?_⟩
    · show (systemVariables.map Variable.id).Nodup
      decide
    intro id hid other hother heq
    obtain ⟨s, hs, rfl⟩ := List.mem_map.1 hid
    obtain ⟨v, hv, rfl⟩ := List.mem_map.1 hother
    have hlead := h.lead v (hkept.subset hv)
    rw [← heq, system_ids s hs] at hlead
    cases hlead
  · refine List.forall_mem_append.2 ⟨fun s hs => .inr hs, fun v hv => .inl ?_⟩
    exact h.taken v (hkept.subset hv)

/-- The nodes that are added have distinct ids, and none of those that are known. -/
theorem addNodes_ids_nodup {known : List String} (hnodup : (r.graph.nodeIds ++ known).Nodup)
    (hissued : ∀ id ∈ r.graph.nodeIds, id ∈ ids.issued)
    (hknown : ∀ id ∈ known, id ∈ ids.issued ∨ id.toList.head? ≠ some 't') :
    ((addNodes blocks ids r).1.graph.nodeIds ++ known).Nodup := by
  induction blocks generalizing ids r with
  | nil => exact hnodup
  | cons b blocks ih =>
      have hfresh := ids.unique_fresh ("task_" ++ toIdentifier b.name)
      have hlead : (ids.unique ("task_" ++ toIdentifier b.name)).1.toList.head? = some 't' :=
        head?_unique ids (by simp)
      have hlater : (ids.unique ("task_" ++ toIdentifier b.name)).2.issued =
          (ids.unique ("task_" ++ toIdentifier b.name)).1 :: ids.issued := rfl
      rw [addNodes]
      generalize ids.unique ("task_" ++ toIdentifier b.name) = issued at hfresh hlead hlater
      obtain ⟨id, ids'⟩ := issued
      dsimp only at hfresh hlead hlater ⊢
      have hknown' : ∀ other ∈ known, other ∈ ids'.issued ∨ other.toList.head? ≠ some 't' :=
        fun other hother => (hknown other hother).imp_left fun hmem =>
          hlater ▸ List.mem_cons_of_mem _ hmem
      have hissued' : ∀ other ∈ r.graph.nodeIds, other ∈ ids'.issued := fun other hother =>
        hlater ▸ List.mem_cons_of_mem _ (hissued other hother)
      cases hadd : r.graph.addNode (b.toNode id) with
      | error cause => exact ih hnodup hissued' hknown'
      | ok graph =>
          obtain ⟨-, -, -, rfl⟩ := Graph.add_node_eq_ok_iff.1 hadd
          have hnodes : ({ r.graph with nodes := r.graph.nodes ++ [b.toNode id] } : Graph).nodeIds =
              r.graph.nodeIds ++ [id] := List.map_append
          have hnew : id ∉ r.graph.nodeIds ++ known := by
            intro hmem
            rcases List.mem_append.1 hmem with hmem | hmem
            · exact hfresh (hissued id hmem)
            · exact (hknown id hmem).elim hfresh fun hother => hother hlead
          refine ih (r := { r with graph := _ }) ?_ ?_ hknown'
          · show (Graph.nodeIds _ ++ known).Nodup
            rw [hnodes, List.append_assoc, List.singleton_append]
            exact List.nodup_middle.2 (List.nodup_cons.2 ⟨hnew, hnodup⟩)
          · show ∀ other ∈ Graph.nodeIds _, other ∈ ids'.issued
            rw [hnodes]
            refine List.forall_mem_append.2 ⟨hissued', List.forall_mem_singleton.2 ?_⟩
            exact hlater ▸ List.mem_cons_self

/-- All nodes and variables of a graph that was read have distinct ids. -/
theorem readScript_ids_nodup (h : readScript text ids = .ok r) :
    (r.graph.nodeIds ++ r.graph.vars.map Variable.id).Nodup := by
  obtain ⟨found, hfound, hr⟩ := bind_eq_ok_iff.1 h
  obtain rfl : assemble found = r := Except.ok.inj hr
  have hnone : ∀ warnings, Findings.Issued { ids, warnings } :=
    fun _ => ⟨List.nodup_nil, by simp, by simp⟩
  obtain ⟨hnodup, hvars⟩ := assemble_vars_nodup ((hnone _).readTokens hfound)
  let declared := declareVariables found.vars
    { graph := Graph.empty, errors := found.errors, warnings := found.warnings }
  have hnodes : (assemble found).graph.nodes =
      (addNodes found.blocks found.ids declared).1.graph.nodes := by
    rw [assemble]
    dsimp only
    split_ifs <;> rw [foldl_addRelation_nodes]
  have hstart : declared.graph.nodeIds = [] := by
    rw [Graph.nodeIds, declareVariables_nodes]
    rfl
  rw [Graph.nodeIds, hnodes]
  refine addNodes_ids_nodup (by rwa [hstart]) (by simp [hstart]) ?_
  intro id hid
  obtain ⟨v, hv, rfl⟩ := List.mem_map.1 hid
  refine (hvars v hv).imp_right fun hs => ?_
  rw [system_ids v hs]
  decide

end Assembling

end Script

/-- No id comes twice. Calls to a generator that counts are answered whatever came before them, and
with ids that were neither issued nor reserved; the search for a free number ends. So no step of a
builder is refused because of an id that is there already, whatever its generator and its graph
were, if the labels of the generator are distinct; and all nodes and variables that are read from a
script have distinct ids. -/
theorem ids_never_reused :
    (∀ start reserved calls,
      let g : IdGenerator := { counter := start, issued := reserved }
      (g.after calls).AnswersFresh (reserved ++ g.claimed calls)) ∧
    (∀ ids : IdGenerator, Function.Injective ids.label → ∀ graph b, Builder.Lives ids graph b →
      ∀ call cause, (b.take call).2 = .error (.graph cause) → ¬ cause.IsIdTaken) ∧
    ∀ text ids r, readScript text ids = .ok r →
      (r.graph.nodeIds ++ r.graph.vars.map Variable.id).Nodup := by
  refine ⟨fun start reserved calls => ?_, fun ids hlabels graph b hlives call => ?_,
    fun text ids r h => Script.readScript_ids_nodup h⟩
  · exact IdGenerator.after_answersFresh toString_int_injective calls
  · exact ((hlives.knows hlabels).take call).clears

/-- A builder that has added a task, while another user of its generator reserved an id. -/
def sharedBuilder : Builder :=
  let b := ((Builder.start {} Graph.empty).take (.addTask { name := "a" })).1
  { b with ids := (b.ids.answer (.reserve ["task_2"])).2 }

/-- A script with a variable and a task. -/
def declaringScript : String :=
  "val v: String by project.extra \x7b \"1\" \x7d\ntasks.register(\"v\") \x7b \x7d\n"

/-- A second task of one name is refused for its name, although its id was reserved elsewhere; a
task and a variable of one name have distinct ids. -/
theorem ids_never_reused_refusal :
    Function.Injective ({} : IdGenerator).label ∧ Builder.Lives {} Graph.empty sharedBuilder ∧
      (sharedBuilder.take (.addTask { name := "a" })).2 =
        .error (.graph (.duplicateTaskName "a")) ∧
      ¬ (GraphError.duplicateTaskName "a").IsIdTaken ∧
      ∃ r, readScript declaringScript {} = .ok r ∧
        (r.graph.nodes.length, r.graph.userVariables.length) = (1, 1) ∧
        (r.graph.nodeIds ++ r.graph.vars.map Variable.id).Nodup := by
  have hlives : Builder.Lives {} Graph.empty sharedBuilder :=
    .elsewhere (.taken .start (.addTask { name := "a" })) (.reserve ["task_2"])
  have hrefused : (sharedBuilder.take (.addTask { name := "a" })).2 =
      .error (.graph (.duplicateTaskName "a")) := by decide +kernel
  have hread : ((readScript declaringScript {}).map fun r =>
      (r.graph.nodes.length, r.graph.userVariables.length)) = .ok (1, 1) := by decide +kernel
  refine ⟨toString_int_injective, hlives, hrefused, ?_, ?_⟩
  · exact ids_never_reused.2.1 {} toString_int_injective Graph.empty sharedBuilder hlives _ _
      hrefused
  · cases hr : readScript declaringScript {} with
    | error stop =>
        rw [hr] at hread
        cases hread
    | ok r =>
        rw [hr] at hread
        exact ⟨r, rfl, Except.ok.inj hread, ids_never_reused.2.2 declaringScript {} r hr⟩

end BuildGraph
