import BuildGraph.Proofs.Script.Effects
import BuildGraph.Proofs.Script.Found
import BuildGraph.Proofs.Script.Readings
import BuildGraph.Proofs.Script.Sorts

/-!
# What is recognized in a script

Reading the tokens of a script recognizes registrations, stubs of disabled tasks and declarations
of variables: `recognized` lists them in the order of the script. What the reading finds is what is
recorded of these items one after another (`readTokens_eq_record`), and each leaves its own mark:
a task leaves a block or an error, a declaration a variable, and the arguments of relations in the
body of a task are related or remarked on (`Recorded`).
-/

namespace BuildGraph.Script

open Recognizer BuildGraph.Number

section Items

/-- A task that is recognized in a script. -/
inductive TaskItem where
  /-- A registration with the tokens of its body. -/
  | block (header : Registration) (body : List Token) (line : Nat)
  /-- A registration with delimiters that do not pair up. -/
  | broken (header : Registration) (line : Nat) (cause : Unbalanced)
  /-- The stub of a disabled task in a comment. -/
  | stub (header : Registration) (line : Nat)

/-- What is recognized in a script. -/
inductive Item where
  | task (item : TaskItem)
  | declaration (name defaultValue : String)
  /-- A declaration that goes on beyond its default declares nothing, but an id is issued for it. -/
  | overrun (name : String)

namespace TaskItem

/-- The name of the task. -/
def name : TaskItem → String
  | block header _ _ => header.name
  | broken header _ _ => header.name
  | stub header _ => header.name

/-- The line on which the task stands. -/
def line : TaskItem → Nat
  | block _ _ line => line
  | broken _ line _ => line
  | stub _ line => line

/-- The arguments of the relations in the body of the task. -/
def arguments : TaskItem → List (Relation × List Token)
  | block _ body _ =>
    match split body with
    | .ok statements => statements.flatMap relationArguments
    | .error _ => []
  | _ => []

end TaskItem

/-- The task of an item. -/
def Item.task? : Item → Option TaskItem
  | task item => some item
  | _ => none

/-- The name and the default of the variable that an item declares. -/
def Item.declaration? : Item → Option (String × String)
  | declaration name defaultValue => some (name, defaultValue)
  | _ => none

/-- What is recognized in a statement outside all blocks. -/
def statementItems (tokens : List Token) (line : Nat) : List Item :=
  match registration ⟨tokens, 0⟩ with
  | .found header rest =>
    let body := match group "\x7b" rest with
      | .found inner _ => inner
      | _ => []
    [.task (.block header body line)]
  | _ =>
    match variableDeclaration ⟨tokens, 0⟩ with
    | .found (name, defaultValue) rest =>
      if rest.atEnd then [.declaration name defaultValue] else [.overrun name]
    | _ => []

/-- What is recognized in a comment below the mark of disabled tasks. -/
def stubItems (comment : Token) : List Item :=
  match registration ⟨(scan comment.value).tokens, 0⟩ with
  | .found header rest =>
    if (rest.peek 0).any (·.isOp "\x7b") then [.task (.stub header comment.line)] else []
  | _ => []

/-- What is recognized where the delimiters of a statement do not pair up. -/
def brokenItems (cause : Unbalanced) (t : Token) (rest : List Token) : List Item :=
  match registration ⟨t :: rest, 0⟩ with
  | .found header _ => [.task (.broken header t.line cause)]
  | _ => []

/-- What is recognized in the tokens of a script. `skip` tokens still belong to the statement
before, and `comment` holds the last comment since. -/
def recognized (skip : Nat) (comment : Option String) : List Token → List Item
  | [] => []
  | t :: rest =>
    match skip with
    | more + 1 => recognized more comment rest
    | 0 =>
      if t.kind == .newline || t.isOp ";" then recognized 0 comment rest
      else if t.kind == .comment then
        (if comment = some disabledMarker then stubItems t else []) ++
          recognized 0 (some t.value) rest
      else
        match statementLength [] none 0 (t :: rest) with
        | .ok n => statementItems ((t :: rest).take n) t.line ++ recognized (n - 1) none rest
        | .error cause =>
          brokenItems cause t rest ++
            recognized ((passOver cause t rest { ids := {} }).2 - 1) none rest

/-- Records an item among what was found. -/
def record (text : String) (f : Findings) : Item → Except IntegerStop Findings
  | .task (.block header body line) => readBlock text header body line f
  | .task (.broken header line cause) => .ok { f with
      errors := f.errors ++ [⟨header.name, line, "Malformed task block: " ++ cause.message⟩] }
  | .task (.stub header line) => .ok { f with
      blocks := f.blocks ++
        [{ name := header.name, kind := kindOfClass header.className, line, enabled := false }] }
  | .declaration name defaultValue =>
    let (id, ids) := f.ids.unique ("var_" ++ name)
    .ok { f with ids, vars := f.vars ++ [{ id, name, defaultValue }] }
  | .overrun name => .ok { f with ids := (f.ids.unique ("var_" ++ name)).2 }

theorem foldlM_record_singleton (text : String) (f : Findings) (item : Item) :
    [item].foldlM (record text) f = record text f item := by
  simp

theorem readTopStatement_eq_record (text : String) (tokens : List Token) (line : Nat)
    (f : Findings) : readTopStatement text tokens line f =
      (statementItems tokens line).foldlM (record text) f := by
  have hvariable : registration ⟨tokens, 0⟩ = .absent ∨
      (∃ cause, registration ⟨tokens, 0⟩ = .stopped cause) →
      readTopStatement text tokens line f =
        (statementItems tokens line).foldlM (record text) f := by
    intro hnone
    have hread : readTopStatement text tokens line f = .ok (readVariable tokens f) := by
      rcases hnone with hnone | ⟨cause, hnone⟩ <;> simp only [readTopStatement, hnone]
    have hitems : statementItems tokens line =
        match variableDeclaration ⟨tokens, 0⟩ with
        | .found (name, defaultValue) rest =>
          if rest.atEnd then [.declaration name defaultValue] else [.overrun name]
        | _ => [] := by
      rcases hnone with hnone | ⟨cause, hnone⟩ <;> simp only [statementItems, hnone]
    rw [hread, hitems, readVariable]
    cases variableDeclaration ⟨tokens, 0⟩ with
    | absent => rfl
    | stopped cause => rfl
    | found declared rest =>
        dsimp only
        split_ifs <;> rw [foldlM_record_singleton] <;> rfl
  cases hheader : registration ⟨tokens, 0⟩ with
  | absent => exact hvariable (.inl hheader)
  | stopped cause => exact hvariable (.inr ⟨cause, hheader⟩)
  | found header rest =>
      simp only [readTopStatement, statementItems, hheader, foldlM_record_singleton]
      rfl

theorem readStub_eq_record (text : String) (comment : Token) (f : Findings) :
    (stubItems comment).foldlM (record text) f = .ok (readStub comment f) := by
  rw [readStub, stubItems]
  cases registration ⟨(scan comment.value).tokens, 0⟩ with
  | absent => rfl
  | stopped cause => rfl
  | found header rest =>
      dsimp only
      split_ifs
      · rw [foldlM_record_singleton]
        rfl
      · rfl

theorem passOver_eq_record (text : String) (cause : Unbalanced) (t : Token) (rest : List Token)
    (f : Findings) :
    (brokenItems cause t rest).foldlM (record text) f = .ok (passOver cause t rest f).1 ∧
      (passOver cause t rest { ids := {} }).2 = (passOver cause t rest f).2 := by
  rw [passOver, passOver, brokenItems]
  cases registration ⟨t :: rest, 0⟩ with
  | absent => exact ⟨rfl, rfl⟩
  | stopped stop => exact ⟨rfl, rfl⟩
  | found header after =>
      rw [foldlM_record_singleton]
      exact ⟨rfl, rfl⟩

/-- What is found in the tokens of a script is what is recorded of the items in them. -/
theorem readTokens_eq_record (text : String) (skip : Nat) (comment : Option String) (f : Findings)
    (ts : List Token) : readTokens text skip comment f ts =
      (recognized skip comment ts).foldlM (record text) f := by
  induction ts generalizing skip comment f with
  | nil => rfl
  | cons t rest ih =>
      cases skip with
      | succ more => exact ih _ _ _
      | zero =>
          rw [readTokens, recognized]
          dsimp only
          split_ifs with hbreak hcomment hmarked
          · exact ih _ _ _
          · rw [List.foldlM_append, readStub_eq_record, ih]
            rfl
          · exact ih _ _ _
          · cases statementLength [] none 0 (t :: rest) with
            | ok n =>
                dsimp only
                rw [List.foldlM_append, ← readTopStatement_eq_record]
                cases readTopStatement text ((t :: rest).take n) t.line f with
                | ok f => exact ih _ _ _
                | error stop => rfl
            | error cause =>
                -- where the reading goes on does not depend on what was found before
                obtain ⟨hrecord, hcount⟩ := passOver_eq_record text cause t rest f
                dsimp only
                rw [List.foldlM_append, hrecord, hcount]
                exact ih _ _ _

end Items

section Bodies

variable {text : String} {declared : List String} {tokens : List Token} {b : Block}
  {r more : Block × List BodyWarning} {arguments arguments' : List (Relation × List Token)}

/-- The task that an argument refers to, with the relation. -/
def reference? (argument : Relation × List Token) : Option (Relation × String) :=
  (taskReference? argument.2).map (argument.1, ·)

/-- The remark on an argument that refers to no task. -/
def unreadable? (text : String) (argument : Relation × List Token) : Option BodyWarning :=
  if (taskReference? argument.2).isNone then
    some (.unreadableReference argument.1 (spanned text argument.2))
  else none

/-- The block is related to the tasks that the arguments refer to, and the remarks are those on the
arguments that refer to none and some on guards. -/
structure Relates (text : String) (arguments : List (Relation × List Token)) (b : Block)
    (r : Block × List BodyWarning) : Prop where
  name : r.1.name = b.name
  line : r.1.line = b.line
  relations : r.1.relations = b.relations ++ arguments.filterMap reference?
  remarks : ∃ guards : List BodyWarning, (∀ w ∈ guards, ∃ raw, w = .unreadableGuard raw) ∧
    r.2.Perm (arguments.filterMap (unreadable? text) ++ guards)

theorem Relates.nil (text : String) (b : Block) : Relates text [] b (b, []) :=
  ⟨rfl, rfl, by simp, [], List.forall_mem_nil _, .refl _⟩

theorem Relates.append (h : Relates text arguments b r) (h' : Relates text arguments' r.1 more) :
    Relates text (arguments ++ arguments') b (more.1, r.2 ++ more.2) where
  name := h'.name.trans h.name
  line := h'.line.trans h.line
  relations := by rw [h'.relations, h.relations, List.filterMap_append, List.append_assoc]
  remarks := by
    obtain ⟨guards, hguards, hperm⟩ := h.remarks
    obtain ⟨guards', hguards', hperm'⟩ := h'.remarks
    refine ⟨guards ++ guards', List.forall_mem_append.2 ⟨hguards, hguards'⟩,
      (hperm.append hperm').trans ?_⟩
    rw [List.filterMap_append, List.append_assoc, List.append_assoc]
    exact List.perm_append_comm_assoc _ _ _ |>.append_left _

/-- The effect of relating a task is to relate it by all its arguments. -/
theorem relates_relating (text : String) (relation : Relation) (args : List (List Token))
    (b : Block) : Relates text (args.map (relation, ·)) b
      ((relating text relation args).apply b, (relating text relation args).warnings) where
  name := rfl
  line := rfl
  relations := by simp [relating, List.filterMap_map, reference?, Function.comp_def]
  remarks := ⟨[], List.forall_mem_nil _, by
    simp [relating, List.filterMap_map, unreadable?, Function.comp_def]⟩

theorem Neutral.relates {effect : Effect} (h : Neutral effect) (text : String) (b : Block) :
    Relates text [] b (effect.apply b, effect.warnings) where
  name := h.name b
  line := h.line b
  relations := by simpa using h.relations b
  remarks := ⟨effect.warnings, h.warnings, .refl _⟩

/-- A statement in which nothing but neutral effects is found relates no task. -/
theorem relates_of_neutral {readings : List (Recognizer Effect)}
    (h : ∀ reading ∈ readings, ∀ effect rest, reading ⟨tokens, 0⟩ = .found effect rest →
      Neutral effect) (hread : readStatement tokens readings b = .ok r) : Relates text [] b r := by
  induction readings generalizing b r with
  | nil =>
      cases hread
      exact .nil text _
  | cons reading readings ih =>
      rw [List.forall_mem_cons] at h
      rw [readStatement] at hread
      cases hfound : reading ⟨tokens, 0⟩ with
      | absent =>
          rw [hfound] at hread
          exact ih h.2 hread
      | stopped cause =>
          rw [hfound] at hread
          cases cause with
          | integer stop => cases hread
          | unbalanced cause =>
              cases hread
              exact .nil text _
      | found effect rest =>
          have hfirst := (h.1 effect rest hfound).relates text b
          rw [hfound] at hread
          dsimp only at hread
          split_ifs at hread
          · cases hread
            exact hfirst
          · cases hmore : readStatement tokens readings (effect.apply b) with
            | error stop =>
                rw [hmore] at hread
                cases hread
            | ok more =>
                rw [hmore] at hread
                cases hread
                exact hfirst.append (ih h.2 hmore)

/-- A statement relates the block by the arguments of its call. -/
theorem relates_readStatement
    (hread : readStatement tokens (statementReadings text declared) b = .ok r) :
    Relates text (relationArguments tokens) b r := by
  by_cases hcall : ∃ call rest, relationCall ⟨tokens, 0⟩ = .found call rest
  · -- no other reading finds the arguments a second time
    obtain ⟨⟨relation, args⟩, rest, hcall⟩ := hcall
    have hmethod := methodCall_of_relationCall hcall text
    have hrelates := relates_relating text relation args b
    have hmem : methodCall text ∈ statementReadings text declared := by simp [statementReadings]
    rw [(only_reading (apart_statementReadings text declared) hmem (by simp [hmethod])).1,
      readStatement, hmethod] at hread
    rw [relationArguments, hcall]
    dsimp only at hread ⊢
    split_ifs at hread <;> cases hread
    · exact hrelates
    · simpa using hrelates
  · have hnone : relationArguments tokens = [] := by
      rw [relationArguments]
      split
      · next relation args rest hfound => exact absurd ⟨_, _, hfound⟩ hcall
      · rfl
    rw [hnone]
    refine relates_of_neutral (fun reading hmem effect rest hfound => ?_) hread
    simp only [statementReadings, List.mem_cons, List.not_mem_nil, or_false] at hmem
    rcases hmem with rfl | rfl | rfl | rfl | rfl
    · exact (yields_assignment.found hfound).toNeutral
    · exact (yields_setterCall.found hfound).toNeutral
    · obtain ⟨relation, args, hfound', -⟩ | hsimple := methodCall_cases hfound
      · exact absurd ⟨_, _, hfound'⟩ hcall
      · exact hsimple.toNeutral
    · exact ((yields_guardStatement text declared).found hfound).toNeutral
    · exact yields_optionsStatement.found hfound

/-- The statements of a body relate the block by all the arguments of their calls. -/
theorem relates_readBody {statements : List (List Token)}
    (hread : readBody text declared statements b = .ok r) :
    Relates text (statements.flatMap relationArguments) b r := by
  induction statements generalizing b r with
  | nil =>
      cases hread
      exact .nil text _
  | cons tokens statements ih =>
      rw [readBody] at hread
      obtain ⟨first, hfirst, hread⟩ := bind_eq_ok_iff.1 hread
      obtain ⟨more, hmore, hread⟩ := bind_eq_ok_iff.1 hread
      cases hread
      rw [List.flatMap_cons]
      exact (relates_readStatement hfirst).append (ih hmore)

end Bodies

section Findings

variable {text : String} {f found last : Findings} {items more : List Item} {item : Item}
  {header : Registration} {body : List Token} {line : Nat}

namespace TaskItem

/-- The tasks that the item is related to. -/
def references (item : TaskItem) : List (Relation × String) :=
  item.arguments.filterMap reference?

/-- The remarks on the arguments in the body of the item. -/
def remarks (text : String) (item : TaskItem) : List ScriptWarning :=
  (item.arguments.filterMap (unreadable? text)).map (.body item.name)

end TaskItem

/-- The block is the one of the task. -/
structure MakesBlock (item : TaskItem) (b : Block) : Prop where
  name : b.name = item.name
  line : b.line = item.line
  relations : b.relations = item.references

/-- The error is about the task. -/
structure FailsWith (item : TaskItem) (e : BlockError) : Prop where
  task : e.task = item.name
  line : e.line = item.line

/-- The remark says that a guard is kept as a literal. -/
def OnGuard (w : ScriptWarning) : Prop := ∃ task raw, w = .body task (.unreadableGuard raw)

/-- What the items leave among what was found: of each task a block or an error, of each
declaration a variable, and of each argument that refers to no task a remark. -/
structure Recorded (text : String) (items : List Item) (f found : Findings) : Prop where
  tasks : ∃ made refused, Sorts MakesBlock FailsWith (items.filterMap Item.task?) made refused ∧
    found.blocks = f.blocks ++ made.map Prod.snd ∧ found.errors = f.errors ++ refused.map Prod.snd
  declarations : ∃ vars : List Variable, found.vars = f.vars ++ vars ∧
    vars.map (fun v => (v.name, v.defaultValue)) = items.filterMap Item.declaration? ∧
    ∀ v ∈ vars, v.isSystem = false
  remarks : ∃ guards : List ScriptWarning, (∀ w ∈ guards, OnGuard w) ∧ found.warnings.Perm
    (f.warnings ++ ((items.filterMap Item.task?).flatMap (TaskItem.remarks text) ++ guards))

theorem Recorded.nil (text : String) (f : Findings) : Recorded text [] f f where
  tasks := ⟨[], [], .nil, by simp, by simp⟩
  declarations := ⟨[], by simp, rfl, List.forall_mem_nil _⟩
  remarks := ⟨[], List.forall_mem_nil _, by simp⟩

theorem Recorded.trans (h : Recorded text items f found) (h' : Recorded text more found last) :
    Recorded text (items ++ more) f last where
  tasks := by
    obtain ⟨made, refused, hsorts, hblocks, herrors⟩ := h.tasks
    obtain ⟨made', refused', hsorts', hblocks', herrors'⟩ := h'.tasks
    refine ⟨made ++ made', refused ++ refused', ?_, ?_, ?_⟩
    · rw [List.filterMap_append]
      exact hsorts.append hsorts'
    · rw [hblocks', hblocks, List.map_append, List.append_assoc]
    · rw [herrors', herrors, List.map_append, List.append_assoc]
  declarations := by
    obtain ⟨vars, hvars, hdeclared, huser⟩ := h.declarations
    obtain ⟨vars', hvars', hdeclared', huser'⟩ := h'.declarations
    refine ⟨vars ++ vars', ?_, ?_, List.forall_mem_append.2 ⟨huser, huser'⟩⟩
    · rw [hvars', hvars, List.append_assoc]
    · rw [List.map_append, hdeclared, hdeclared', List.filterMap_append]
  remarks := by
    obtain ⟨guards, hguards, hperm⟩ := h.remarks
    obtain ⟨guards', hguards', hperm'⟩ := h'.remarks
    refine ⟨guards ++ guards', List.forall_mem_append.2 ⟨hguards, hguards'⟩,
      hperm'.trans ((hperm.append_right _).trans ?_)⟩
    rw [List.filterMap_append, List.flatMap_append]
    simp only [List.append_assoc]
    exact List.perm_append_comm_assoc _ _ _ |>.append_left _ |>.append_left _

/-- A task with no arguments leaves a block or an error alone. -/
theorem recorded_task {item : TaskItem} (hnone : item.arguments = [])
    (h : (∃ b, MakesBlock item b ∧ found = { f with blocks := f.blocks ++ [b] }) ∨
      ∃ e, FailsWith item e ∧ found = { f with errors := f.errors ++ [e] }) :
    Recorded text [.task item] f found := by
  have hremarks : ([Item.task item].filterMap Item.task?).flatMap (TaskItem.remarks text) = [] := by
    simp [Item.task?, TaskItem.remarks, hnone]
  obtain ⟨b, hb, rfl⟩ | ⟨e, he, rfl⟩ := h
  · exact {
      tasks := ⟨[(item, b)], [], .left hb .nil, rfl, by simp⟩
      declarations := ⟨[], by simp, rfl, List.forall_mem_nil _⟩
      remarks := ⟨[], List.forall_mem_nil _, by simp [hremarks]⟩ }
  · exact {
      tasks := ⟨[], [(item, e)], .right he .nil, by simp, rfl⟩
      declarations := ⟨[], by simp, rfl, List.forall_mem_nil _⟩
      remarks := ⟨[], List.forall_mem_nil _, by simp [hremarks]⟩ }

/-- The task of a registration leaves a block, or an error if its body cannot be split. -/
theorem recorded_readBlock (hread : readBlock text header body line f = .ok found) :
    Recorded text [.task (.block header body line)] f found := by
  rw [readBlock] at hread
  cases hsplit : split body with
  | error cause =>
      rw [hsplit] at hread
      cases hread
      exact recorded_task (by simp [TaskItem.arguments, hsplit]) (.inr ⟨_, ⟨rfl, rfl⟩, rfl⟩)
  | ok statements =>
      rw [hsplit] at hread
      dsimp only at hread
      split at hread
      · cases hread
      · next b warnings hbody =>
          have hrelates := relates_readBody hbody
          split at hread
          · cases hread
          · next b' hrequest =>
              cases hread
              obtain ⟨hname, hline, hrelations⟩ := recoverRequest_keeps hrequest
              obtain ⟨guards, hguards, hperm⟩ := hrelates.remarks
              have harguments : (TaskItem.block header body line).arguments =
                  statements.flatMap relationArguments := by simp [TaskItem.arguments, hsplit]
              have hmade : MakesBlock (.block header body line) b' :=
                ⟨hname.trans hrelates.name, hline.trans hrelates.line, by
                  rw [hrelations, hrelates.relations, TaskItem.references, harguments]
                  rfl⟩
              exact {
                tasks := ⟨[(_, b')], [], .left hmade .nil, rfl, by simp⟩
                declarations := ⟨[], by simp, rfl, List.forall_mem_nil _⟩
                remarks := by
                  refine ⟨guards.map (.body header.name), fun w hw => ?_, ?_⟩
                  · obtain ⟨remark, hremark, rfl⟩ := List.mem_map.1 hw
                    obtain ⟨raw, rfl⟩ := hguards remark hremark
                    exact ⟨header.name, raw, rfl⟩
                  · refine List.Perm.append_left _ ((hperm.map _).trans ?_)
                    simp [Item.task?, TaskItem.remarks, harguments, TaskItem.name] }

/-- A declaration leaves its variable. -/
theorem recorded_declaration {name defaultValue : String}
    (hread : record text f (.declaration name defaultValue) = .ok found) :
    Recorded text [.declaration name defaultValue] f found := by
  cases hread
  have hnone : [Item.declaration name defaultValue].filterMap Item.task? = [] := rfl
  exact {
    tasks := ⟨[], [], .nil, by simp, by simp⟩
    declarations := ⟨[_], rfl, rfl, List.forall_mem_singleton.2 rfl⟩
    remarks := ⟨[], List.forall_mem_nil _, by simp [hnone]⟩ }

/-- Each item leaves its mark. -/
theorem recorded_record (hread : record text f item = .ok found) :
    Recorded text [item] f found := by
  cases item with
  | task item =>
      cases item with
      | block header body line => exact recorded_readBlock hread
      | broken header line cause =>
          cases hread
          exact recorded_task rfl (.inr ⟨_, ⟨rfl, rfl⟩, rfl⟩)
      | stub header line =>
          cases hread
          exact recorded_task rfl (.inl ⟨_, ⟨rfl, rfl, rfl⟩, rfl⟩)
  | declaration name defaultValue => exact recorded_declaration hread
  | overrun name =>
      cases hread
      have hnone : [Item.overrun name].filterMap Item.task? = [] := rfl
      exact {
        tasks := ⟨[], [], .nil, by simp, by simp⟩
        declarations := ⟨[], by simp, rfl, List.forall_mem_nil _⟩
        remarks := ⟨[], List.forall_mem_nil _, by simp [hnone]⟩ }

/-- What is found in a script are the marks of the items in it. -/
theorem recorded_foldlM (hread : items.foldlM (record text) f = .ok found) :
    Recorded text items f found := by
  induction items generalizing f with
  | nil =>
      cases hread
      exact .nil text found
  | cons item items ih =>
      rw [List.foldlM_cons] at hread
      obtain ⟨next, hnext, hread⟩ := bind_eq_ok_iff.1 hread
      exact (recorded_record hnext).trans (ih hread)

end Findings

end BuildGraph.Script
