import TableShell.Proofs.Rounds
import TableShell.Proofs.StorableResults
import TableShell.Proofs.StoredFiles

namespace TableShell

variable {name other dir : String}

theorem IsWord.no_slash_file (h : IsWord name) : '/' ∉ (name ++ ".db").toList := by
  rw [String.toList_append, List.mem_append, not_or]
  exact ⟨h.not_mem (by decide), by decide⟩

theorem IsWord.childName (h : IsWord name) : ChildName (name ++ ".db") := by
  have hlong : ∀ short : String, short.toList.length ≤ 2 → name ++ ".db" ≠ short := by
    rintro short hs rfl
    rw [String.toList_append, List.length_append] at hs
    have hdb : ".db".toList.length = 3 := by decide
    omega
  exact ⟨⟨by simp, h.no_slash_file⟩, hlong "." (by decide), hlong ".." (by decide)⟩

theorem eq_of_file_eq (h : name ++ ".db" = other ++ ".db") : name = other := by
  have hfile := congrArg String.toList h
  rw [String.toList_append, String.toList_append] at hfile
  exact String.toList_inj.mp (List.append_cancel_right hfile)

namespace Folder

variable {f f' : Folder} {location : Location} {contents found : ByteArray}

theorem locate_tablePath (hn : IsWord name) (h : f.locate (tablePath dir name) = .ok location) :
    ∃ inside, f.walk (startOf dir) (namesOf dir) = .ok inside ∧
      location = (name ++ ".db") :: inside :=
  exists_of_locate_child hn.childName h

theorem name_of_locate (hn : IsWord name) (ho : IsWord other)
    (h : f.locate (tablePath dir name) = .ok location)
    (h' : f.locate (tablePath dir other) = .ok location) : name = other := by
  obtain ⟨inside, -, rfl⟩ := locate_tablePath hn h
  obtain ⟨inside', -, he⟩ := locate_tablePath ho h'
  exact eq_of_file_eq (List.cons.inj he).1

def Vacant (f : Folder) (dir : String) : Prop :=
  ∀ name contents, IsWord name → f.read (tablePath dir name) ≠ .ok contents

theorem vacant_of_no_file {inside : Location} (h : f.locate (joinPath dir ".") = .ok inside)
    (hempty : ∀ file contents, f.entry? (file :: inside) ≠ some (.file contents)) :
    f.Vacant dir := by
  intro name contents hn hr
  obtain ⟨location, hl, he⟩ := read_eq_ok_iff.mp hr
  obtain ⟨inside', hw, rfl⟩ := locate_tablePath hn hl
  have hdot := walk_of_walk_dot (locate_joinPath ⟨by decide, by decide⟩ h)
  rw [hdot] at hw
  cases hw
  exact hempty _ _ he

end Folder

namespace Session

variable {s s' : Session}

/-- The script is spelled as any text is, and so are the tables; and what can be loaded has been
stored. -/
structure Sound (s : Session) : Prop where
  events : SpelledEvents s.events
  database : s.database.Storable
  files : ∀ name, IsWord name → Statement.Written (s.folder.read (tablePath s.dir name))

theorem sound_of_vacant {lines : List String} (hl : ∀ line ∈ lines, '\n' ∉ line.toList)
    {dir : String} {folder : Folder} (h : folder.Vacant dir) (output : Output) (prompting : Bool) :
    (new lines dir folder output prompting).Sound where
  events := by
    rw [events_eq]
    exact Tokens.spelled_ofLines hl
  database := Database.all_empty _
  files name hn contents hr := absurd hr (h name contents hn)

theorem folder_execute (s : Session) (statement : Statement) :
    (s.execute statement).2.folder = (s.folder.serve (statement.request s.dir s.database)).2 := by
  simp only [execute]
  split
  · rfl
  · split <;> rfl

theorem dir_execute (s : Session) (statement : Statement) :
    (s.execute statement).2.dir = s.dir := by
  simp only [execute]
  split
  · rfl
  · split <;> rfl

theorem serve_cases (s : Session) (statement : Statement) :
    (s.folder.serve (statement.request s.dir s.database)).2 = s.folder ∨
      ∃ name t, s.database.get? name = some t ∧
        s.folder.write (tablePath s.dir name) t.fileText.toUTF8 =
          .ok (s.folder.serve (statement.request s.dir s.database)).2 := by
  cases statement with
  | store name =>
    rw [Statement.request]
    cases ht : s.database.get? name with
    | none => exact .inl rfl
    | some t =>
      rw [Option.map_some, Folder.serve]
      split
      · rename_i hw
        exact .inr ⟨name, t, ht, hw⟩
      · exact .inl rfl
  | create name definition => exact .inl rfl
  | insert name rows => exact .inl rfl
  | load name => exact .inl rfl
  | print name => exact .inl rfl
  | select q => exact .inl rfl
  | exit => exact .inl rfl

theorem Sound.execute (h : s.Sound) {statement : Statement} (hs : statement.Spelled) :
    (s.execute statement).2.Sound where
  events := by
    rw [events_eq, reader_execute, ← events_eq]
    exact h.events
  database := by
    apply all_execute
    apply Statement.storable_effect h.database hs
    rintro name rfl
    exact h.files name hs
  files := by
    intro name hn contents hr
    rw [folder_execute, dir_execute] at hr
    obtain hsame | ⟨stored, t, ht, hw⟩ := s.serve_cases statement
    · rw [hsame] at hr
      exact h.files name hn contents hr
    · obtain rfl | hr := Folder.read_after_write hw hr
      · exact ⟨t, (h.database stored t ht).2, rfl⟩
      · exact h.files name hn contents hr

theorem kept_sound : Kept Sound Statement.Spelled where
  read {s} h := by
    refine ⟨fun token hm => h.events token ?_, h.database, h.files⟩
    rw [events_eq] at hm ⊢
    exact Reader.subset_statement s.reader hm
  readable {s statement} h hr := by
    rw [read_eq_reading] at hr
    exact spelled_of_reading s.ended_events h.events hr
  execute h hs := h.execute hs
  skip {s} h := by
    refine ⟨fun token hm => h.events token ?_, h.database, h.files⟩
    rw [events_eq] at hm ⊢
    exact Reader.subset_skip s.reader hm
  report _ h := ⟨h.events, h.database, h.files⟩

def Holds (s : Session) (name : String) (t : Table) : Prop :=
  s.folder.read (tablePath s.dir name) = .ok t.fileText.toUTF8

theorem store_eq_ok {more : Bool} (h : s.execute (.store name) = (.ok more, s')) :
    s'.database = s.database ∧ s'.dir = s.dir ∧
      ∃ t, s.database.get? name = some t ∧
        s.folder.write (tablePath s.dir name) t.fileText.toUTF8 = .ok s'.folder := by
  rw [execute] at h
  cases ht : s.database.get? name with
  | none => simp [Statement.request, Statement.effect, Database.table, ht, bind, Except.bind] at h
  | some t =>
    cases hw : s.folder.write (tablePath s.dir name) t.fileText.toUTF8 with
    | error e =>
      simp only [Statement.request, Statement.effect, Database.table, ht, bind, Except.bind,
        Option.map_some, Folder.serve, hw] at h
      cases h
    | ok folder =>
      simp only [Statement.request, Statement.effect, Database.table, ht, bind, Except.bind, pure,
        Except.pure, Option.map_some, Folder.serve, hw] at h
      split at h <;> cases h
      exact ⟨rfl, rfl, t, rfl, hw⟩

theorem execute_load {t : Table} (hu : s.Unlimited) (ht : t.Storable) (hf : s.Holds name t) :
    ∃ after, s.execute (.load name) = (.ok true, after) ∧
      after.database = s.database.put name t ∧ after.dir = s.dir ∧ after.folder = s.folder ∧
        after.Unlimited := by
  have hloaded := Table.ofFile_fileText ht (tablePath s.dir name)
  rw [Holds] at hf
  have heffect : ((Statement.load name).effect s.dir s.database
      (s.folder.serve ((Statement.load name).request s.dir s.database)).1).1 =
        .ok ⟨s!"Loaded {name}.db\n", s.database.put name t, true⟩ := by
    simp only [Statement.request, Folder.serve, hf, Statement.effect, Statement.loadedTable,
      hloaded, Except.map]
  have hwrite := Output.write_of_unlimited hu .answer s!"Loaded {name}.db\n"
  refine ⟨_, execute_of_fits heffect (congrArg Prod.fst hwrite), rfl, rfl, rfl, ?_⟩
  rw [Unlimited]
  rw [hwrite]
  exact hu

def executeAll (s : Session) : List Statement → Except Fault Session
  | [] => .ok s
  | statement :: rest =>
    match s.execute statement with
    | (.ok _, s) => s.executeAll rest
    | (.error fault, _) => .error fault

theorem holds_of_store {more : Bool} (hdb : s.database.Storable)
    (h : s.execute (.store name) = (.ok more, s')) {t : Table} (ht : s.database.get? other = some t)
    (hheld : other = name ∨ s.Holds other t) : s'.Holds other t := by
  obtain ⟨-, hdir, stored, hs, hw⟩ := store_eq_ok h
  rw [Holds]
  rw [hdir]
  by_cases he : other = name
  · subst he
    rw [ht] at hs
    cases hs
    exact Folder.read_of_write hw
  · apply Folder.read_of_write_of_ne hw (hheld.resolve_left he)
    intro location hl hl'
    exact he (Folder.name_of_locate (hdb other t ht).1 (hdb name stored hs).1 hl' hl)

theorem holds_of_stores {names : List String} (hdb : s.database.Storable)
    (h : s.executeAll (names.map .store) = .ok s') :
    s'.database = s.database ∧ s'.dir = s.dir ∧
      ∀ name t, s.database.get? name = some t → name ∈ names ∨ s.Holds name t →
        s'.Holds name t := by
  induction names generalizing s with
  | nil =>
    cases h
    exact ⟨rfl, rfl, fun name t _ hh => hh.resolve_left List.not_mem_nil⟩
  | cons first rest ih =>
    rw [List.map_cons, executeAll] at h
    split at h
    · rename_i more after hfirst
      obtain ⟨hsame, hdir, -⟩ := store_eq_ok hfirst
      obtain ⟨hsame', hdir', hall⟩ := ih (hsame ▸ hdb) h
      refine ⟨hsame'.trans hsame, hdir'.trans hdir, fun name t ht hh => ?_⟩
      apply hall name t (hsame ▸ ht)
      by_cases hr : name ∈ rest
      · exact .inl hr
      · refine .inr (holds_of_store hdb hfirst ht ?_)
        obtain hm | hh := hh
        · exact .inl ((List.mem_cons.mp hm).resolve_right hr)
        · exact .inr hh
    · cases h

theorem loads_of_holds {names : List String} {db : Database} (hdb : db.Storable) (hu : s.Unlimited)
    (h : ∀ name ∈ names, ∃ t, db.get? name = some t ∧ s.Holds name t) :
    ∃ after, s.executeAll (names.map .load) = .ok after ∧
      ∀ name, after.database.get? name =
        if name ∈ names then db.get? name else s.database.get? name := by
  induction names generalizing s with
  | nil => exact ⟨s, rfl, by simp⟩
  | cons first rest ih =>
    obtain ⟨⟨t, ht, hheld⟩, hrest⟩ := List.forall_mem_cons.mp h
    obtain ⟨loaded, hl, hput, hdir, hfolder, hunlimited⟩ := execute_load hu (hdb first t ht).2 hheld
    obtain ⟨after, ha, hget⟩ := ih hunlimited fun name hn => by
      obtain ⟨u, hg, hh⟩ := hrest name hn
      refine ⟨u, hg, ?_⟩
      rw [Holds]
      rw [hdir, hfolder]
      exact hh
    refine ⟨after, ?_, fun name => ?_⟩
    · rw [List.map_cons, executeAll, hl]
      exact ha
    · rw [hget name, hput, Database.get?_put]
      by_cases hr : name ∈ rest
      · simp [hr]
      · by_cases hf : name = first
        · simp [hf, ht]
        · simp [hr, hf]

theorem kept_dir (dir : String) : Kept (fun s => s.dir = dir) (fun _ => True) where
  read h := h
  readable _ _ := trivial
  execute {s statement} h _ := (dir_execute s statement).trans h
  skip h := h
  report _ h := h

theorem Sound.load_of_store (h : s.Sound) (hu : s.Unlimited) {more : Bool}
    (hs : s.execute (.store name) = (.ok more, s')) :
    ∃ loaded, s'.execute (.load name) = (.ok true, loaded) ∧
      s'.database = s.database ∧ loaded.database = s.database := by
  obtain ⟨hsame, -, t, ht, hw⟩ := store_eq_ok hs
  have hheld : s'.Holds name t := holds_of_store h.database hs ht (.inl rfl)
  have hu' : s'.Unlimited := by
    have hstep : (s.execute (.store name)).2.Unlimited := kept_unlimited.execute hu trivial
    rwa [hs] at hstep
  obtain ⟨loaded, hl, hput, -⟩ := execute_load hu' (h.database name t ht).2 hheld
  refine ⟨loaded, hl, hsame, ?_⟩
  rw [hput, hsame]
  exact Database.put_of_get? ht

theorem Sound.load_of_store_all (h : s.Sound) {names order : List String}
    (hs : s.executeAll (names.map .store) = .ok s')
    (hall : ∀ name, (s.database.get? name).isSome → name ∈ names)
    (horder : ∀ name, name ∈ order ↔ (s.database.get? name).isSome)
    {fresh : Session} (hu : fresh.Unlimited) (hempty : fresh.database = .empty)
    (hdir : fresh.dir = s.dir) (hfolder : fresh.folder = s'.folder) :
    ∃ loaded, fresh.executeAll (order.map .load) = .ok loaded ∧
      loaded.database = s.database := by
  obtain ⟨-, hdir', hheld⟩ := holds_of_stores h.database hs
  have hfiles : ∀ name ∈ order, ∃ t, s.database.get? name = some t ∧ fresh.Holds name t := by
    intro name hn
    have hsome := (horder name).mp hn
    obtain ⟨t, ht⟩ := Option.isSome_iff_exists.mp hsome
    have hh := hheld name t ht (.inl (hall name hsome))
    refine ⟨t, ht, ?_⟩
    rw [Holds, hfolder, hdir, ← hdir']
    exact hh
  obtain ⟨loaded, hl, hget⟩ := loads_of_holds h.database hu hfiles
  refine ⟨loaded, hl, ?_⟩
  apply Database.eq_of_get?
  intro name
  rw [hget name]
  split
  · rfl
  · rename_i hn
    rw [horder name, Option.not_isSome_iff_eq_none] at hn
    rw [hn, hempty]
    rfl

/-- In a directory without table files, whatever a session has been through: a table that can be
stored can then be loaded, which changes nothing; and if all tables can be stored, another session
can load them all, in any order, and has the same database then. Statements from elsewhere than the
script must be spelled like those of a script. -/
theorem loaded_of_stored (script : ByteArray) {dir : String} {folder : Folder}
    (hvacant : folder.Vacant dir) (prompting : Bool) {cs : List Call}
    (hcs : ∀ c ∈ cs, c.Within Statement.Spelled) :
    let s := (new (Text.scriptLines script) dir folder .unlimited prompting).calls cs
    (∀ name more stored, s.execute (.store name) = (.ok more, stored) →
      ∃ loaded, stored.execute (.load name) = (.ok true, loaded) ∧
        stored.database = s.database ∧ loaded.database = s.database) ∧
    ∀ (names order : List String) (stored : Session),
      (∀ name, (s.database.get? name).isSome → name ∈ names) →
      (∀ name, name ∈ order ↔ (s.database.get? name).isSome) →
      s.executeAll (names.map .store) = .ok stored → ∀ lines prompting,
        ∃ loaded, (new lines dir stored.folder .unlimited prompting).executeAll
            (order.map .load) = .ok loaded ∧ loaded.database = s.database := by
  intro s
  have hany : ∀ c ∈ cs, c.Within fun _ => True := fun c _ => by cases c <;> trivial
  have hsound : s.Sound := kept_sound.calls hcs
    (sound_of_vacant (Text.no_lineFeed_scriptLines script) hvacant .unlimited prompting)
  have hu : s.Unlimited := kept_unlimited.calls hany rfl
  have hdir : s.dir = dir := (kept_dir dir).calls hany rfl
  refine ⟨fun name more stored => hsound.load_of_store hu, ?_⟩
  intro names order stored hall horder hs lines prompting'
  exact hsound.load_of_store_all hs hall horder rfl rfl hdir.symm rfl

theorem loaded_of_stored_once :
    let folder := Folder.empty.set ["data"] .directory
    let script := "create table t (a);\ninsert into t values ('x');\n".toUTF8
    let s := (new (Text.scriptLines script) "data" folder .unlimited false).calls
      [.statement, .statement]
    s.database.get? "t" = some ⟨["a"], [["x"]], [0]⟩ ∧
      ∃ stored loaded other, s.execute (.store "t") = (.ok true, stored) ∧
        stored.folder.read "data/t.db" = .ok "a\nx\n".toUTF8 ∧
        stored.execute (.load "t") = (.ok true, loaded) ∧ loaded.database = s.database ∧
        (new [] "data" stored.folder .unlimited false).executeAll [.load "t"] = .ok other ∧
        other.database = s.database := by
  intro folder script s
  have hvacant : folder.Vacant "data" := by
    have hl : folder.locate (joinPath "data" ".") = .ok ["data"] := by rfl
    apply Folder.vacant_of_no_file hl
    intro file contents he
    simp [folder, Folder.entry?, Folder.set, Folder.setEntry, Folder.empty, Location.isGiven,
      List.lookup_cons] at he
  have hcs : ∀ c ∈ [Call.statement, .statement], c.Within Statement.Spelled := by
    simp [Call.Within]
  obtain ⟨hload, hall⟩ := loaded_of_stored script hvacant false hcs
  have hlines : Text.scriptLines script = ["create table t (a);", "insert into t values ('x');"] := by
    have hline : ∀ line ∈ ["create table t (a);", "insert into t values ('x');"],
        '\n' ∉ line.toList := by decide
    exact (Text.scriptLines_of_lines hline).trans (by decide)
  -- the two statements are read and carried out
  let first := new (Text.scriptLines script) "data" folder .unlimited false
  have hev : first.events =
      [.ok ⟨.keyword .create, 1⟩, .ok ⟨.keyword .table, 1⟩, .ok ⟨.identifier "t", 1⟩,
        .ok ⟨.leftParen, 1⟩, .ok ⟨.identifier "a", 1⟩, .ok ⟨.rightParen, 1⟩, .ok ⟨.semicolon, 1⟩,
        .ok ⟨.keyword .insert, 2⟩, .ok ⟨.keyword .into, 2⟩, .ok ⟨.identifier "t", 2⟩,
        .ok ⟨.keyword .values, 2⟩, .ok ⟨.leftParen, 2⟩, .ok ⟨.literal "x", 2⟩,
        .ok ⟨.rightParen, 2⟩, .ok ⟨.semicolon, 2⟩, .ok ⟨.endOfInput, 2⟩] := by
    simp +decide [first, hlines, events_new, Source.eventsFrom, Scan.line, Scan.text_nil,
      Scan.text_cons, Scan.lexeme, Scan.literal, Comparison.read?, Lexeme.at]
  have hcreate : result "data" .empty folder true (leading first.events) =
      (.ok true, Database.empty.put "t" ⟨["a"], [], []⟩, folder, "") := by
    rw [hev]
    rfl
  obtain ⟨-, hdb, hfolder, hevents⟩ := first.statement_of_result rfl hcreate
  let second := first.statement.2
  have hu : second.Unlimited := kept_unlimited.statement rfl
  have hdir : second.dir = "data" := (kept_dir "data").statement rfl
  have hinsert : result second.dir second.database second.folder true (leading second.events) =
      (.ok true, (Database.empty.put "t" ⟨["a"], [], []⟩).put "t" ⟨["a"], [["x"]], [0]⟩, folder,
        "") := by
    rw [hdir, hdb, hfolder, hevents, hev]
    rfl
  obtain ⟨-, hdb, hfolder, -⟩ := second.statement_of_result hu hinsert
  have hs : s = second.statement.2 := rfl
  rw [← hs] at hdb hfolder
  have hget : s.database.get? "t" = some ⟨["a"], [["x"]], [0]⟩ := by
    rw [hdb, Database.get?_put, if_pos rfl]
  -- so the table can be stored
  have hu : s.Unlimited := kept_unlimited.statement hu
  have hdir : s.dir = "data" := (kept_dir "data").statement hdir
  obtain ⟨written, text, hw, he⟩ := s.execute_eq_outcome (.store "t")
  rw [(hw hu).1, hdb, hfolder, hdir] at he
  have hstored : (s.execute (.store "t")).1 = .ok true := (congrArg Prod.fst he).trans rfl
  have hboth : s.execute (.store "t") = (.ok true, (s.execute (.store "t")).2) := by
    rw [← hstored]
  have hfile : (s.execute (.store "t")).2.folder.read "data/t.db" = .ok "a\nx\n".toUTF8 := by
    obtain ⟨-, -, t, ht, hwrite⟩ := store_eq_ok hboth
    obtain rfl : ⟨["a"], [["x"]], [0]⟩ = t := Option.some.inj (hget.symm.trans ht)
    rw [hdir] at hwrite
    exact Folder.read_of_write hwrite
  obtain ⟨loaded, hl, -, hsame⟩ := hload "t" true _ hboth
  have hnames : ∀ name, name ∈ ["t"] ↔ (s.database.get? name).isSome := by
    intro name
    rw [hdb, Database.get?_put, Database.get?_put]
    by_cases hn : name = "t" <;> simp [hn, Database.get?, Database.empty]
  have hone : s.executeAll [.store "t"] = .ok (s.execute (.store "t")).2 := by
    rw [executeAll, hboth]
    rfl
  obtain ⟨other, ho, hother⟩ := hall ["t"] ["t"] _ (fun name hn => (hnames name).mpr hn) hnames hone
    [] false
  exact ⟨hget, _, loaded, other, hboth, hfile, hl, hsame, ho, hother⟩

end Session

end TableShell
