import TableShell.Proofs.Persistence
import TableShell.Proofs.SameRows

namespace TableShell

namespace Statement

def target? : Statement → Option String
  | create name _ => some name
  | insert name _ => some name
  | load name => some name
  | store _ => none
  | print _ => none
  | select _ => none
  | exit => none

variable {statement : Statement} {dir : String} {db : Database}
  {file : Except FileError ByteArray} {effect : Effect} {t : Table} {rows : List Row}

theorem put_before_answer (dir : String) (db : Database) (file : Except FileError ByteArray)
    (statement : Statement) :
    (statement.effect dir db file).2 = db ∨ ∃ name t, statement.target? = some name ∧
      (statement.effect dir db file).2 = db.put name t := by
  cases statement with
  | insert name rows =>
    rw [Statement.effect]
    split
    · exact .inl rfl
    · exact .inr ⟨name, _, rfl, rfl⟩
  | _ => exact .inl rfl

theorem put_of_effect (h : (statement.effect dir db file).1 = .ok effect) :
    effect.database = db ∨
      ∃ name t, statement.target? = some name ∧ effect.database = db.put name t := by
  cases statement with
  | create name definition =>
    obtain ⟨t, -, rfl⟩ := exists_of_map_eq_ok h
    exact .inr ⟨name, t, rfl, rfl⟩
  | insert name rows =>
    rw [Statement.effect] at h
    split at h
    · cases h
    · obtain ⟨_, -, rfl⟩ := exists_of_map_eq_ok h
      exact .inr ⟨name, _, rfl, rfl⟩
  | load name =>
    obtain ⟨t, -, rfl⟩ := exists_of_map_eq_ok h
    exact .inr ⟨name, t, rfl, rfl⟩
  | store name =>
    obtain ⟨t, -, h⟩ := exists_of_bind_eq_ok h
    split at h <;> cases h
    exact .inl rfl
  | print name =>
    obtain ⟨t, -, rfl⟩ := exists_of_map_eq_ok h
    exact .inl rfl
  | select q =>
    obtain ⟨t, -, rfl⟩ := exists_of_map_eq_ok h
    exact .inl rfl
  | exit =>
    cases h
    exact .inl rfl

/-- Rows that can be inserted are added where they first occur, unless they are there already. -/
theorem rows_of_insertRows (h : t.Valid) (hi : (insertRows t rows).1 = .ok ()) :
    (insertRows t rows).2.titles = t.titles ∧
      (insertRows t rows).2.rows = t.rows ++ (rows.filter (· ∉ t.rows)).eraseDups := by
  rw [insertRows] at hi ⊢
  split at hi
  · cases hi
  · rename_i hfind
    have hw : ∀ row ∈ rows, row.length = t.width := by simpa using hfind
    obtain ⟨t', ht', -, htitles, hrows⟩ := h.insertAll_eq_ok hw
    rw [addRows_of_insertAll ht']
    refine ⟨htitles, ?_⟩
    rw [hrows, List.eraseDups_append, Table.eraseDups_of_nodup h.rows_nodup]
    simp [List.removeAll]

end Statement

namespace Session

variable {s : Session} {statement : Statement}

theorem execute_eq_ok (h : (s.execute statement).1.isOk) :
    let file := (s.folder.serve (statement.request s.dir s.database)).1
    ∃ effect, (statement.effect s.dir s.database file).1 = .ok effect ∧
      (s.execute statement).2.database = effect.database := by
  simp only [execute] at h ⊢
  split at h
  · cases h
  · rename_i effect he
    refine ⟨effect, he, ?_⟩
    split at h
    · rfl
    · cases h

/-- What a statement leaves alone, whether it succeeds or fails. -/
structure Framed (s s' : Session) (statement : Statement) : Prop where
  others : ∀ name, statement.target? ≠ some name → s'.database.get? name = s.database.get? name
  names : ∀ name, (s.database.get? name).isSome → (s'.database.get? name).isSome
  database : statement.target? = none → s'.database = s.database
  files : (∀ name, statement ≠ .store name) → s'.folder = s.folder

/-- What a statement that succeeds makes of its table, or of its file. -/
def Done (s s' : Session) : Statement → Prop
  | .create name definition => ∃ t,
    Statement.definedTable s.database definition = .ok t ∧ s'.database = s.database.put name t
  | .insert name rows => ∃ t t', s.database.get? name = some t ∧
    s'.database = s.database.put name t' ∧ t'.titles = t.titles ∧
      t'.rows = t.rows ++ (rows.filter (· ∉ t.rows)).eraseDups
  | .load name => ∃ t,
    Statement.loadedTable (tablePath s.dir name) (s.folder.read (tablePath s.dir name)) = .ok t ∧
      s'.database = s.database.put name t
  | .store name => ∃ t location, s.database.get? name = some t ∧
    s.folder.locate (tablePath s.dir name) = .ok location ∧
    s'.folder.entry? location = some (.file (",".intercalate t.titles ++ "\n" ++
      String.join (t.rows.map fun row => ",".intercalate row ++ "\n")).toUTF8) ∧
    (∀ other, other ≠ location → s'.folder.entry? other = s.folder.entry? other) ∧
    ∀ path target, s'.folder.locate path = .ok target ↔ s.folder.locate path = .ok target
  | .print _ => True
  | .select _ => True
  | .exit => True

theorem fileText_eq (t : Table) :
    t.fileText = ",".intercalate t.titles ++ "\n" ++
      String.join (t.rows.map fun row => ",".intercalate row ++ "\n") := by
  rw [Table.fileText, List.map_cons, String.join_cons]
  rfl

theorem put_of_execute (s : Session) (statement : Statement) :
    (s.execute statement).2.database = s.database ∨ ∃ name t, statement.target? = some name ∧
      (s.execute statement).2.database = s.database.put name t := by
  obtain hdb | ⟨effect, he, hdb⟩ := s.database_execute statement <;> rw [← hdb]
  · exact Statement.put_before_answer _ _ _ statement
  · exact Statement.put_of_effect he

theorem framed_execute (s : Session) (statement : Statement) :
    s.Framed (s.execute statement).2 statement := by
  have hput := s.put_of_execute statement
  generalize hdb : (s.execute statement).2.database = db at hput
  refine ⟨?_, ?_, ?_, ?_⟩
  · intro name hname
    rw [hdb]
    obtain rfl | ⟨target, t, ht, rfl⟩ := hput
    · rfl
    · rw [Database.get?_put, if_neg]
      rintro rfl
      exact hname ht
  · intro name hname
    rw [hdb]
    obtain rfl | ⟨target, t, -, rfl⟩ := hput
    · exact hname
    · rw [Database.get?_put]
      split
      · rfl
      · exact hname
  · intro hnone
    rw [hdb]
    obtain rfl | ⟨target, t, ht, -⟩ := hput
    · rfl
    · rw [hnone] at ht
      cases ht
  · intro hstore
    rw [folder_execute]
    cases statement with
    | store name => exact absurd rfl (hstore name)
    | _ => rfl

theorem done_execute (hdb : s.database.Valid) (h : (s.execute statement).1.isOk) :
    s.Done (s.execute statement).2 statement := by
  obtain ⟨effect, he, hafter⟩ := execute_eq_ok h
  cases statement with
  | create name definition =>
    obtain ⟨t, ht, rfl⟩ := exists_of_map_eq_ok he
    exact ⟨t, ht, hafter⟩
  | insert name rows =>
    rw [Statement.effect] at he
    split at he
    · cases he
    · rename_i t ht
      have hget := Database.get?_of_table ht
      obtain ⟨_, hi, rfl⟩ := exists_of_map_eq_ok he
      obtain ⟨htitles, hrows⟩ := Statement.rows_of_insertRows (hdb name t hget) hi
      exact ⟨t, _, hget, hafter, htitles, hrows⟩
  | load name =>
    obtain ⟨t, ht, rfl⟩ := exists_of_map_eq_ok he
    exact ⟨t, ht, hafter⟩
  | store name =>
    obtain ⟨more, hmore⟩ : ∃ more, (s.execute (.store name)).1 = .ok more := by
      cases hr : (s.execute (.store name)).1 with
      | error fault =>
        rw [hr] at h
        cases h
      | ok more => exact ⟨more, rfl⟩
    obtain ⟨-, -, t, ht, hw⟩ := store_eq_ok (Prod.ext hmore rfl)
    obtain ⟨location, hl, hd, hset⟩ := Folder.write_eq_ok hw
    refine ⟨t, location, ht, hl, ?_, ?_, ?_⟩
    · rw [hset, ← fileText_eq]
      exact Folder.entry?_set_self hd
    · intro other ho
      rw [hset]
      exact Folder.entry?_set_of_ne ho
    · intro path target
      rw [hset]
      exact Folder.locate_set hd path target
  | print name => trivial
  | select q => trivial
  | exit => trivial

/-- After any calls, whatever statement is carried out: it leaves all tables but its own, all names
and all files but its own as they are, and if it succeeds, it has done to those what it says. -/
theorem framed_of_execute (lines : List String) (dir : String) (folder : Folder) (output : Output)
    (prompting : Bool) (cs : List Call) (statement : Statement) :
    let s := (new lines dir folder output prompting).calls cs
    s.Framed (s.execute statement).2 statement ∧
      ((s.execute statement).1.isOk → s.Done (s.execute statement).2 statement) := by
  intro s
  have hdb : s.database.Valid := by
    apply kept_valid.calls
    · intro c _
      cases c <;> trivial
    · exact Database.all_empty _
  exact ⟨s.framed_execute statement, done_execute hdb⟩

theorem framed_of_repeated_rows :
    let made : List Call := [.execute (.create "t" (.columns ["a", "b"])),
      .execute (.insert "t" [["x", ""]])]
    let rows := [["y", "x"], ["x", ""], ["y", "x"], ["z", "1"]]
    let s := (new [] "" .empty .unlimited false).calls made
    let filled := (new [] "" .empty .unlimited false).calls (made ++ [.execute (.insert "t" rows)])
    ((s.execute (.insert "t" rows)).1.isOk ∧
      s.Framed (s.execute (.insert "t" rows)).2 (.insert "t" rows) ∧
      s.Done (s.execute (.insert "t" rows)).2 (.insert "t" rows)) ∧
    (filled.execute (.store "t")).1.isOk ∧
      filled.Framed (filled.execute (.store "t")).2 (.store "t") ∧
      (filled.execute (.store "t")).2.folder.entry? ["t.db"] =
        some (.file "a,b\nx,\ny,x\nz,1\n".toUTF8) := by
  intro made rows s filled
  have hinsert : (s.execute (.insert "t" rows)).1.isOk := by decide +kernel
  have hstore : (filled.execute (.store "t")).1.isOk := by decide +kernel
  have hget : filled.database.get? "t" =
      some ⟨["a", "b"], [["x", ""], ["y", "x"], ["z", "1"]], [0, 1, 2]⟩ := by decide +kernel
  have hlocate : filled.folder.locate (tablePath filled.dir "t") = .ok ["t.db"] := by
    decide +kernel
  obtain ⟨hframe, hdone⟩ :=
    framed_of_execute [] "" .empty .unlimited false made (.insert "t" rows)
  obtain ⟨hframed, hstored⟩ := framed_of_execute [] "" .empty .unlimited false
    (made ++ [.execute (.insert "t" rows)]) (.store "t")
  obtain ⟨t, location, ht, hl, hfile, -⟩ := hstored hstore
  obtain rfl : t = _ := Option.some.inj (ht.symm.trans hget)
  obtain rfl : location = _ := Except.ok.inj (hl.symm.trans hlocate)
  refine ⟨⟨hinsert, hframe, hdone hinsert⟩, hstore, hframed, ?_⟩
  exact hfile.trans
    (congrArg (fun text : String => some (Entry.file text.toUTF8)) (by decide +kernel))

end Session

end TableShell
