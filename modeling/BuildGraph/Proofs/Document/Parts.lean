import BuildGraph.Document.Decode
import BuildGraph.Proofs.Table

/-!
# Parts of a graph and their documents

Every part of a graph is read back from its document: settings, guards and triggers with all their
fields, and nodes, edges, groups and variables made of them. A field is found under its name in the
object that was written, a member of a closed set by its name, and a table by its entries in order.
-/

namespace BuildGraph

/-- A closed set whose members are found by their names. -/
class LawfulNamed (α : Type) [Named α] : Prop where
  ofName?_nameOf : ∀ a : α, ofName? (nameOf a) = some a

instance : LawfulNamed Duplicates := ⟨fun a => by cases a <;> decide⟩

instance : LawfulNamed Source := ⟨fun a => by cases a <;> decide⟩

instance : LawfulNamed Operator := ⟨fun a => by cases a <;> decide⟩

instance : LawfulNamed GuardMode := ⟨fun a => by cases a <;> decide⟩

instance : LawfulNamed Logic := ⟨fun a => by cases a <;> decide⟩

instance : LawfulNamed Kind := ⟨fun a => by cases a <;> decide⟩

instance : LawfulNamed Relation := ⟨fun a => by cases a <;> decide⟩

instance : LawfulNamed ValueType := ⟨fun a => by cases a <;> decide⟩

namespace Document

section Values

variable {α β : Type} {key name : String} {value : Document} {fields : List (String × Document)}

@[simp] theorem field?_cons :
    (object ((name, value) :: fields)).field? key =
      if name = key then some value else (object fields).field? key := by
  by_cases h : name = key
  · simp [field?, Document.fields, h]
  · simp [field?, Document.fields, h]

@[simp] theorem asTexts_ofTexts (texts : List String) : (ofTexts texts).asTexts = texts := by
  simp [ofTexts, asTexts, items, Function.comp_def, asText]

@[simp] theorem asText?_ofText? (s : Option String) : (ofText? s).asText? = s := by
  cases s <;> rfl

@[simp] theorem asInt?_ofInt? (n : Option Int) : (ofInt? n).asInt? = n := by
  cases n <;> rfl

@[simp] theorem asTable_ofTable (t : Table String String) : (ofTable t).asTable = t := by
  simp [ofTable, asTable, Document.fields, Function.comp_def, asText, Table.ofList_entries]

@[simp] theorem asMember_ofMember [Named α] [LawfulNamed α] (a : α) :
    (ofMember a).asMember = .ok a := by
  rw [ofMember, asMember, LawfulNamed.ofName?_nameOf]

/-- Values are read back one after another. -/
theorem mapM_map {ε : Type} {write : α → β} {read : β → Except ε α} {as : List α}
    (h : ∀ a ∈ as, read (write a) = .ok a) : (as.map write).mapM read = .ok as := by
  induction as with
  | nil => rfl
  | cons a as ih =>
      rw [List.forall_mem_cons] at h
      rw [List.map_cons, List.mapM_cons, h.1, ih h.2]
      rfl

end Values

end Document

open Document

section Settings

/-- A way to treat duplicates that is written down is read back. -/
theorem readDuplicates_eq {d : Document} (duplicates : Option Duplicates)
    (h : d.field? "duplicates_strategy" = some ((duplicates.map ofMember).getD null)) :
    readDuplicates d = .ok duplicates := by
  rw [readDuplicates, h]
  cases duplicates with
  | none => rfl
  | some way =>
      change (ofMember way).asMember.map some = _
      rw [asMember_ofMember]
      rfl

/-- The settings of a copy are read back. -/
theorem CopyConfig.ofDocument_toDocument (c : CopyConfig) :
    CopyConfig.ofDocument (Config.copy c).toDocument = .ok c := by
  rw [CopyConfig.ofDocument, readDuplicates_eq c.duplicates (by
    simp [Config.toDocument])]
  simp [Config.toDocument, textsField, textField, asText, pure, Except.pure, bind, Except.bind]

/-- The settings of an archive are read back. -/
theorem ArchiveConfig.ofDocument_toDocument (c : ArchiveConfig) :
    ArchiveConfig.ofDocument (Config.archive c).toDocument = .ok c := by
  rw [ArchiveConfig.ofDocument, readDuplicates_eq c.duplicates (by
    simp [Config.toDocument])]
  simp [Config.toDocument, textsField, textField?, boolField, pure, Except.pure, bind, Except.bind]

/-- The settings of every step are read back. -/
theorem Step.ofDocument_toDocument (step : Step) :
    Step.ofDocument step.kind step.config.toDocument = .ok step := by
  cases step with
  | exec c =>
      simp [Step.ofDocument, Step.kind, Step.config, Config.toDocument, ExecConfig.ofDocument,
        textsField, textField?, tableField, boolField]
  | copy c =>
      change (CopyConfig.ofDocument (Config.copy c).toDocument).map Step.copy = _
      rw [CopyConfig.ofDocument_toDocument]
      rfl
  | delete c =>
      simp [Step.ofDocument, Step.kind, Step.config, Config.toDocument, DeleteConfig.ofDocument,
        textsField, boolField]
  | zip c =>
      change (ArchiveConfig.ofDocument (Config.archive c).toDocument).map Step.zip = _
      rw [ArchiveConfig.ofDocument_toDocument]
      rfl
  | jar c =>
      change (ArchiveConfig.ofDocument (Config.archive c).toDocument).map Step.jar = _
      rw [ArchiveConfig.ofDocument_toDocument]
      rfl
  | test c =>
      simp [Step.ofDocument, Step.kind, Step.config, Config.toDocument, TestConfig.ofDocument,
        textsField, intField?, boolField]
  | javaCompile c =>
      simp [Step.ofDocument, Step.kind, Step.config, Config.toDocument,
        JavaCompileConfig.ofDocument, textsField, textField?, boolField]
  | processResources c =>
      change (CopyConfig.ofDocument (Config.copy c).toDocument).map Step.processResources = _
      rw [CopyConfig.ofDocument_toDocument]
      rfl
  | httpRequest c =>
      simp [Step.ofDocument, Step.kind, Step.config, Config.toDocument, HttpConfig.ofDocument,
        textField, textField?, intField?, tableField, boolField, asText]
  | custom => rfl

end Settings

section Guards

/-- A condition is read back, with the operand that its operator may not ask for. -/
theorem Condition.ofDocument_toDocument (c : Condition) :
    Condition.ofDocument c.toDocument = .ok c := by
  simp [Condition.ofDocument, Condition.toDocument, require, memberField, textField, asText, pure,
    Except.pure, bind, Except.bind]

/-- A guard is read back, the one without conditions too. -/
theorem Guard.ofDocument?_toDocument (guard : Option Guard) :
    Guard.ofDocument? ((guard.map Guard.toDocument).getD null) = .ok guard := by
  cases guard with
  | none => rfl
  | some g =>
      have hconditions : (g.toDocument.fieldItems "conditions").mapM Condition.ofDocument =
          .ok g.conditions := by
        simpa [Guard.toDocument, fieldItems, items] using
          mapM_map fun c _ => Condition.ofDocument_toDocument c
      rw [Option.map_some, Option.getD_some, Guard.ofDocument?, if_neg (by
        simp [Guard.toDocument, isNothing]), hconditions]
      simp [Guard.toDocument, memberField, pure, Except.pure, bind, Except.bind]

end Guards

section Triggers

/-- A trigger is read back by the name of its form. -/
theorem Trigger.ofDocument?_toDocument (trigger : Option Trigger) :
    Trigger.ofDocument? ((trigger.map Trigger.toDocument).getD null) = .ok trigger := by
  cases trigger with
  | none => rfl
  | some t =>
      cases t with
      | manual => simp [Trigger.ofDocument?, Trigger.toDocument, Trigger.typeName, isNothing]
      | fileWatch w =>
          simp [Trigger.ofDocument?, Trigger.toDocument, Trigger.typeName, isNothing, textsField,
            boolField, intField?, asInt?]
      | schedule s =>
          simp [Trigger.ofDocument?, Trigger.toDocument, Trigger.typeName, isNothing, textField,
            textField?, boolField, asText]
      | webhook w =>
          simp [Trigger.ofDocument?, Trigger.toDocument, Trigger.typeName, isNothing, textField,
            textsField, tableField, asText]

end Triggers

section Parts

theorem Node.ofDocument_toDocument (n : Node) : Node.ofDocument n.toDocument = .ok n := by
  have hstep := Step.ofDocument_toDocument n.step
  have hguard := Guard.ofDocument?_toDocument n.condition
  have htrigger := Trigger.ofDocument?_toDocument n.trigger
  simp [Node.ofDocument, Node.toDocument, Node.kind, require, memberField, textField?, intField?,
    boolField, asText, hstep, hguard, htrigger, pure, Except.pure, bind, Except.bind]

theorem Variable.ofDocument_toDocument (v : Variable) :
    Variable.ofDocument v.toDocument = .ok v := by
  simp [Variable.ofDocument, Variable.toDocument, require, memberField, textField, textField?,
    boolField, asText, pure, Except.pure, bind, Except.bind]

theorem Group.ofDocument_toDocument (group : Group) :
    Group.ofDocument group.toDocument = .ok group := by
  simp [Group.ofDocument, Group.toDocument, textField, textField?, textsField, boolField, asText]

theorem Edge.ofDocument_toDocument (e : Edge) : Edge.ofDocument e.toDocument = .ok e := by
  simp [Edge.ofDocument, Edge.toDocument, readEdgeParts, require, asText, pure, Except.pure, bind,
    Except.bind]

end Parts

end BuildGraph
