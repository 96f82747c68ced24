import TableShell.Proofs.SessionCalls

namespace TableShell

namespace Statement

variable {t : Table} {rows : List Row} {fault : Fault}

theorem addRows_of_width (h : ∀ row ∈ rows, row.length = t.width) :
    (addRows t rows).1 = .ok () := by
  induction rows generalizing t with
  | nil => rfl
  | cons row rest ih =>
    obtain ⟨hrow, hrest⟩ := List.forall_mem_cons.mp h
    rw [addRows]
    split
    · rename_i hi
      apply ih
      intro other ho
      rw [Table.width_of_insert hi]
      exact hrest other ho
    · rename_i hi
      exact absurd hrow (Table.insert_eq_error_iff.mp hi).1

theorem insertRows_of_error (h : (insertRows t rows).1 = .error fault) :
    (insertRows t rows).2 = t := by
  rw [insertRows] at h ⊢
  split at h
  · rfl
  · rename_i hnone
    have hw : ∀ row ∈ rows, row.length = t.width := by simpa using hnone
    rw [addRows_of_width hw] at h
    cases h

variable {dir : String} {db : Database}

/-- Before its answer a statement changes the database only if it has nothing to answer. -/
theorem effect_before_answer (dir : String) (db : Database) (file : Except FileError ByteArray)
    (statement : Statement) :
    (statement.effect dir db file).2 = db ∨
      ∃ effect, (statement.effect dir db file).1 = .ok effect ∧ effect.text = "" := by
  cases statement with
  | insert name rows =>
    rw [effect]
    split
    · exact .inl rfl
    · rename_i t ht
      dsimp only
      cases hi : (insertRows t rows).1 with
      | error fault =>
        rw [insertRows_of_error hi]
        exact .inl (Database.put_of_get? (Database.get?_of_table ht))
      | ok _ => exact .inr ⟨_, rfl, rfl⟩
  | create name definition => exact .inl rfl
  | load name => exact .inl rfl
  | store name => exact .inl rfl
  | print name => exact .inl rfl
  | select q => exact .inl rfl
  | exit => exact .inl rfl

theorem serve_of_error {folder : Folder} {statement : Statement}
    (h : (statement.effect dir db (folder.serve (statement.request dir db)).1).1 = .error fault) :
    (folder.serve (statement.request dir db)).2 = folder := by
  cases statement with
  | store name =>
    simp only [effect, request, Database.table] at h ⊢
    cases hg : db.get? name with
    | none => rfl
    | some t =>
      simp only [hg, Option.map_some, Folder.serve] at h ⊢
      cases hw : folder.write (tablePath dir name) t.fileText.toUTF8 with
      | error e => rfl
      | ok after =>
        rw [hw] at h
        cases h
  | create name definition => rfl
  | insert name rows => rfl
  | load name => rfl
  | print name => rfl
  | select q => rfl
  | exit => rfl

end Statement

namespace Output

/-- What has been written, prompts aside. -/
def answers (o : Output) : ByteArray :=
  { o with parts := o.parts.filter (fun part => part.1 = PartKind.answer) }.bytes

theorem answers_write_prompt (o : Output) (text : String) :
    (o.write .prompt text).2.answers = o.answers := by
  rw [write]
  split <;> simp [answers, bytes]

theorem answers_foldl_prompts (o : Output) (prompts : List Prompt) :
    (prompts.foldl (fun output prompt => (output.write .prompt prompt.text).2) o).answers =
      o.answers := by
  induction prompts generalizing o with
  | nil => rfl
  | cons prompt rest ih => exact (ih _).trans (answers_write_prompt o prompt.text)

end Output

namespace Session

variable {s s' : Session} {fault : Fault}

theorem execute_eq_error {statement : Statement} (h : s.execute statement = (.error fault, s')) :
    let served := s.folder.serve (statement.request s.dir s.database)
    let carried := statement.effect s.dir s.database served.1
    (carried.1 = .error fault ∧ s' = { s with folder := served.2, database := carried.2 }) ∨
      fault = outputFull ∧ ∃ effect output, carried.1 = .ok effect ∧
        s.output.write .answer effect.text = (false, output) ∧
        s' = { s with folder := served.2, database := carried.2, output } := by
  intro served carried
  simp only [execute] at h
  split at h <;> rename_i he
  · cases h
    exact .inl ⟨he, rfl⟩
  · split at h <;> rename_i hw <;> cases h
    exact .inr ⟨rfl, _, _, he, hw, rfl⟩

theorem database_of_execute_error {statement : Statement}
    (h : s.execute statement = (.error fault, s')) : s'.database = s.database := by
  have hbefore := Statement.effect_before_answer s.dir s.database
    (s.folder.serve (statement.request s.dir s.database)).1 statement
  obtain ⟨he, rfl⟩ | ⟨-, effect, output, he, hw, rfl⟩ := execute_eq_error h
  · obtain hdb | ⟨effect, hok, -⟩ := hbefore
    · exact hdb
    · rw [he] at hok
      cases hok
  · obtain hdb | ⟨effect', hok, htext⟩ := hbefore
    · exact hdb
    · -- an empty answer always fits
      rw [he] at hok
      cases hok
      have hfits := s.output.write_empty .answer
      rw [← htext, hw] at hfits
      cases hfits

theorem files_of_execute_error {statement : Statement}
    (h : s.execute statement = (.error fault, s')) (hio : ∀ reason, fault ≠ .io reason) :
    s'.folder = s.folder ∧ s'.output = s.output := by
  obtain ⟨he, rfl⟩ | ⟨rfl, -⟩ := execute_eq_error h
  · exact ⟨Statement.serve_of_error he, rfl⟩
  · exact absurd rfl (hio _)

theorem answers_showPrompts (s : Session) : s.showPrompts.output.answers = s.output.answers := by
  simp only [showPrompts]
  split
  · exact Output.answers_foldl_prompts _ _
  · rfl

theorem answers_read (s : Session) : s.read.2.output.answers = s.output.answers :=
  answers_showPrompts _

theorem statement_eq_error (h : s.statement = (.error fault, s')) :
    s' = s.read.2 ∨ ∃ statement, s.read.2.execute statement = (.error fault, s') := by
  cases hr : s.read.1 with
  | error other =>
    rw [statement_of_read_error hr] at h
    cases h
    exact .inl rfl
  | ok statement =>
    rw [statement_of_read_ok hr] at h
    exact .inr ⟨statement, h⟩

/-- A call that fails leaves the database as it was; and if it is not the output that has failed, it
has changed no file and written nothing but prompts. -/
theorem unchanged_of_error
    (h : s.statement = (.error fault, s') ∨ ∃ statement, s.execute statement = (.error fault, s')) :
    s'.database = s.database ∧
      ((∀ reason, fault ≠ .io reason) →
        s'.folder = s.folder ∧ s'.output.answers = s.output.answers) := by
  obtain h | ⟨statement, h⟩ := h
  · obtain rfl | ⟨statement, h⟩ := statement_eq_error h
    · exact ⟨rfl, fun _ => ⟨rfl, answers_read s⟩⟩
    · have hdb : s'.database = s.read.2.database := database_of_execute_error h
      refine ⟨hdb, fun hio => ?_⟩
      obtain ⟨hfolder, houtput⟩ := files_of_execute_error h hio
      exact ⟨hfolder, houtput ▸ answers_read s⟩
  · refine ⟨database_of_execute_error h, fun hio => ?_⟩
    obtain ⟨hfolder, houtput⟩ := files_of_execute_error h hio
    exact ⟨hfolder, congrArg Output.answers houtput⟩

theorem unchanged_of_short_row :
    let s : Session :=
      ⟨.ofLines [], Database.empty.put "t" ⟨["a"], [["1"]], [0]⟩, "", .empty, .unlimited, false⟩
    let s' := (s.execute (.insert "t" [["2"], []])).2
    s'.database = s.database ∧
      ((∀ reason, Fault.arity 1 0 ≠ .io reason) →
        s'.folder = s.folder ∧ s'.output.answers = s.output.answers) :=
  unchanged_of_error (.inr ⟨.insert "t" [["2"], []], rfl⟩)

end Session

end TableShell
