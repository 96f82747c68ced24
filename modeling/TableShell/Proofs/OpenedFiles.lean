import TableShell.Proofs.Persistence
import TableShell.Proofs.StatementText
import TableShell.Proofs.Turns

namespace TableShell

def FileRequest.path : FileRequest → String
  | read path => path
  | write path _ => path

namespace Folder

variable {f : Folder} {location : Location} {request : FileRequest} {requests : List FileRequest}

def serveAll (f : Folder) (requests : List FileRequest) : Folder :=
  requests.foldl (fun f request => (f.serve (some request)).2) f

theorem serveAll_cons (f : Folder) (request : FileRequest) (requests : List FileRequest) :
    f.serveAll (request :: requests) = (f.serve (some request)).2.serveAll requests := rfl

theorem serveAll_append (f : Folder) (requests later : List FileRequest) :
    f.serveAll (requests ++ later) = (f.serveAll requests).serveAll later :=
  List.foldl_append

theorem serve_request_cases (f : Folder) (request : FileRequest) :
    (f.serve (some request)).2 = f ∨ ∃ path contents, request = .write path contents ∧
      f.write path contents = .ok (f.serve (some request)).2 := by
  cases request with
  | read path => exact .inl rfl
  | write path contents =>
    rw [serve]
    split
    · rename_i hw
      exact .inr ⟨path, contents, rfl, hw⟩
    · exact .inl rfl

theorem entry?_serveAll
    (h : ∀ path contents, .write path contents ∈ requests → f.locate path ≠ .ok location) :
    Folder.entry? (f.serveAll requests) location = f.entry? location := by
  induction requests generalizing f with
  | nil => rfl
  | cons request rest ih =>
    have hrest : ∀ path contents, .write path contents ∈ rest → f.locate path ≠ .ok location :=
      fun path contents hm => h path contents (List.mem_cons_of_mem _ hm)
    rw [serveAll_cons]
    obtain hsame | ⟨path, contents, rfl, hw⟩ := f.serve_request_cases request
    · rw [hsame]
      exact ih hrest
    · obtain ⟨target, hl, hd, hset⟩ := write_eq_ok hw
      have hne : location ≠ target := by
        rintro rfl
        exact h path contents List.mem_cons_self hl
      rw [hset, ih, entry?_set_of_ne hne]
      intro later written hm hlater
      exact hrest later written hm ((locate_set hd later location).mp hlater)

end Folder

namespace Session

variable {s s' : Session} {dir name : String}

/-- The request is for the file of the table with this name, which is a child of the directory, and
it is one to write only if that table is there and is to be stored. -/
structure Turn.Opens (t : Turn) (dir name : String) (request : FileRequest) : Prop where
  isName : IsName name
  path : request.path = tablePath dir name
  child : ChildPath dir (name ++ ".db") request.path
  below : ∀ f location, Folder.locate f request.path = .ok location →
    ∃ inside, f.walk (startOf dir) (namesOf dir) = .ok inside ∧ location = (name ++ ".db") :: inside
  written : ∀ path contents, request = .write path contents →
    t.reading = .ok (.store name) ∧
      ∃ table, t.session.database.get? name = some table ∧ contents = table.fileText.toUTF8

/-- Only loading and storing open a file, and both the one of the table that they name. -/
theorem request_eq_some {statement : Statement} {db : Database} {request : FileRequest}
    (h : statement.request dir db = some request) :
    ∃ name, (statement = .load name ∨ statement = .store name) ∧
      request.path = tablePath dir name ∧
      ∀ path contents, request = .write path contents → statement = .store name ∧
        ∃ table, db.get? name = some table ∧ contents = table.fileText.toUTF8 := by
  cases statement with
  | load name =>
    cases h
    exact ⟨name, .inl rfl, rfl, fun _ _ hw => by cases hw⟩
  | store name =>
    obtain ⟨table, ht, rfl⟩ := Option.map_eq_some_iff.mp h
    refine ⟨name, .inr rfl, rfl, fun _ _ hw => ?_⟩
    cases hw
    exact ⟨rfl, table, ht, rfl⟩
  | create | insert | print | select | exit => cases h

theorem opens_of_turn {t : Turn}
    (ht : t.Within (fun s => s.dir = dir) Statement.WellFormed) {request : FileRequest}
    (h : t.request = some request) : ∃ name, t.Opens dir name request := by
  obtain ⟨reading, s⟩ := t
  obtain ⟨hdir, hwell⟩ := ht
  obtain rfl : s.dir = dir := hdir
  cases reading with
  | error fault => cases h
  | ok statement =>
    obtain ⟨name, hstatement, hpath, hwritten⟩ := request_eq_some h
    have hname : IsName name := by
      apply (hwell statement rfl).names
      obtain rfl | rfl := hstatement <;> simp [Statement.words, Statement.said]
    refine ⟨name, hname, hpath, ?_, fun f location hl => ?_, fun path contents hw => ?_⟩
    · rw [hpath]
      exact hname.isWord.childName.childPath s.dir
    · rw [hpath] at hl
      exact Folder.locate_tablePath hname.isWord hl
    · obtain ⟨rfl, htable⟩ := hwritten path contents hw
      exact ⟨rfl, htable⟩

theorem files_ne {other : String} (hn : IsName name) (ho : IsName other) (hne : name ≠ other)
    (dir : String) :
    tablePath dir name ≠ tablePath dir other ∧ ∀ f location,
      Folder.locate f (tablePath dir name) = .ok location →
        Folder.locate f (tablePath dir other) ≠ .ok location := by
  constructor
  · intro he
    have hchild : ChildPath dir (name ++ ".db") (tablePath dir name) :=
      hn.isWord.childName.childPath dir
    have hother : ChildPath dir (other ++ ".db") (tablePath dir other) :=
      ho.isWord.childName.childPath dir
    rw [he] at hchild
    exact hne (eq_of_file_eq (hchild.file_eq hother))
  · intro f location hl hl'
    exact hne (Folder.name_of_locate hn.isWord ho.isWord hl hl')

theorem kept_written_in (dir : String) :
    Kept (fun s => s.dir = dir ∧ WritableEvents s.events) Statement.WellFormed where
  read {s} h := by
    refine ⟨h.1, fun token hm => h.2 token ?_⟩
    rw [events_eq] at hm ⊢
    exact Reader.subset_statement s.reader hm
  readable {s statement} h hr := by
    rw [read_eq_reading] at hr
    exact Statement.wellFormed_of_reading s.ended_events h.2 hr
  execute {s statement} h _ := by
    rw [dir_execute, events_eq, reader_execute, ← events_eq]
    exact h
  skip {s} h := by
    refine ⟨h.1, fun token hm => h.2 token ?_⟩
    rw [events_eq] at hm ⊢
    exact Reader.subset_skip s.reader hm
  report _ h := h

theorem folder_after (t : Turn) : t.after.folder = (t.session.folder.serve t.request).2 := by
  obtain ⟨reading, s⟩ := t
  cases reading with
  | error fault => rfl
  | ok statement => exact folder_execute s statement

theorem folder_conclude (result : Except Fault Bool) (s : Session) :
    (conclude (result, s)).2.folder = s.folder := by
  match result with
  | .ok true => rfl
  | .ok false => rfl
  | .error fault =>
    simp only [conclude]
    split <;> rfl

def requests (s : Session) (cs : List Call) : List FileRequest :=
  (s.turns cs).filterMap Turn.request

theorem serve_eq_serveAll (f : Folder) (t : Turn) (later : List Turn) :
    f.serveAll ((t :: later).filterMap Turn.request) =
      (f.serve t.request).2.serveAll (later.filterMap Turn.request) := by
  cases h : t.request with
  | none =>
    rw [List.filterMap_cons_none h]
    rfl
  | some request => rw [List.filterMap_cons_some h, Folder.serveAll_cons]

theorem folder_round (s : Session) :
    s.round.2.folder = (s.folder.serve s.turn.request).2 :=
  (folder_conclude _ _).trans (folder_after s.turn)

theorem folder_run (s : Session) :
    s.run.2.folder = s.folder.serveAll (s.turnsOfRun.filterMap Turn.request) := by
  fun_induction turnsOfRun s with
  | case1 s after hr ih =>
    have hround := s.folder_round
    rw [hr] at hround
    rw [run_of_round_none hr, ih, serve_eq_serveAll, hround]
  | case2 s result after hr =>
    have hround := s.folder_round
    rw [hr] at hround
    rw [run_of_round hr, serve_eq_serveAll, ← hround]
    rfl

theorem folder_call (s : Session) (c : Call) :
    (s.call c).folder = s.folder.serveAll ((s.turnsOf c).filterMap Turn.request) := by
  cases c with
  | statement =>
    rw [call, statement_eq_turn, folder_after]
    exact (serve_eq_serveAll _ _ []).symm
  | skip => rfl
  | round => exact s.folder_round.trans (serve_eq_serveAll _ _ []).symm
  | run => exact s.folder_run
  | execute statement =>
    exact (folder_after ⟨.ok statement, s⟩).trans (serve_eq_serveAll _ _ []).symm

theorem request_turn (s : Session) :
    s.turn.request =
      match Draft.empty.reading s.events with
      | .ok statement => statement.request s.dir s.database
      | .error _ => none := by
  rw [Turn.request, turn, read_eq_reading]
  rfl

/-- Nothing but its requests makes a session change its files. -/
theorem folder_calls (s : Session) (cs : List Call) :
    (s.calls cs).folder = s.folder.serveAll (s.requests cs) := by
  induction cs generalizing s with
  | nil => rfl
  | cons c cs ih =>
    have hrest := ih (s.call c)
    rw [requests, turns, List.filterMap_append, Folder.serveAll_append, ← folder_call]
    exact hrest

/-- Whatever the script and the directory are: each file that is opened is that of a table, a child of
the directory, and different tables have different files. What happens to the files is what is asked
for, and a file that is not asked to be written, because its table is stored, stays as it is.
Statements from elsewhere than the script must be well-formed. -/
theorem opened_in_directory (source : ByteArray) (dir : String) (folder : Folder) (output : Output)
    (prompting : Bool) {cs : List Call} (hcs : ∀ c ∈ cs, c.Within Statement.WellFormed) :
    let s := new (Text.scriptLines source) dir folder output prompting
    (∀ t ∈ s.turns cs, ∀ request, t.request = some request → ∃ name, t.Opens dir name request) ∧
    (∀ name other, IsName name → IsName other → name ≠ other →
      tablePath dir name ≠ tablePath dir other ∧ ∀ f location,
        Folder.locate f (tablePath dir name) = .ok location →
          Folder.locate f (tablePath dir other) ≠ .ok location) ∧
    (s.calls cs).folder = folder.serveAll (s.requests cs) ∧
    ∀ location,
      (∀ path contents, .write path contents ∈ s.requests cs → folder.locate path ≠ .ok location) →
        (s.calls cs).folder.entry? location = folder.entry? location := by
  intro s
  have hfolder : (s.calls cs).folder = folder.serveAll (s.requests cs) := s.folder_calls cs
  have hstart : s.dir = dir ∧ WritableEvents s.events := by
    refine ⟨rfl, ?_⟩
    rw [events_eq]
    exact Tokens.writable_ofLines (Text.no_lineFeed_scriptLines source)
  refine ⟨?_, fun name other hn ho hne => files_ne hn ho hne dir, hfolder, fun location hl => ?_⟩
  · intro t ht request hr
    obtain ⟨⟨hdir, -⟩, hwell⟩ := (kept_written_in dir).turns hcs hstart t ht
    exact opens_of_turn ⟨hdir, hwell⟩ hr
  · rw [hfolder]
    exact Folder.entry?_serveAll hl

theorem opened_in_directory_by_store :
    let folder :=
      (Folder.empty.set ["data"] .directory).set ["b.db", "data"] (.file "b\n".toUTF8)
    let script := "create table größe (a);store größe;load größe;".toUTF8
    let s := new (Text.scriptLines script) "data/" folder .unlimited false
    let cs := [Call.statement, .statement, .statement]
    let asked := [FileRequest.write "data/größe.db" "a\n".toUTF8, .read "data/größe.db"]
    (∀ c ∈ cs, c.Within Statement.WellFormed) ∧ s.requests cs = asked ∧
      (∀ request ∈ asked, ∃ t ∈ s.turns cs, ∃ name, t.Opens "data/" name request) ∧
      (s.calls cs).folder = folder.serveAll asked ∧
      (s.calls cs).folder.entry? ["größe.db", "data"] = some (.file "a\n".toUTF8) ∧
      (s.calls cs).folder.entry? ["b.db", "data"] = some (.file "b\n".toUTF8) := by
  intro folder script s cs asked
  have hcs : ∀ c ∈ cs, c.Within Statement.WellFormed := by simp [cs, Call.Within]
  have hlines : Text.scriptLines script = ["create table größe (a);store größe;load größe;"] := by
    decide +kernel
  have hev : s.events =
      [.ok ⟨.keyword .create, 1⟩, .ok ⟨.keyword .table, 1⟩, .ok ⟨.identifier "größe", 1⟩,
        .ok ⟨.leftParen, 1⟩, .ok ⟨.identifier "a", 1⟩, .ok ⟨.rightParen, 1⟩, .ok ⟨.semicolon, 1⟩,
        .ok ⟨.keyword .store, 1⟩, .ok ⟨.identifier "größe", 1⟩, .ok ⟨.semicolon, 1⟩,
        .ok ⟨.keyword .load, 1⟩, .ok ⟨.identifier "größe", 1⟩, .ok ⟨.semicolon, 1⟩,
        .ok ⟨.endOfInput, 1⟩] := by
    simp +decide [s, hlines, events_new, Source.eventsFrom, Scan.line, Scan.text_nil,
      Scan.text_cons, Scan.lexeme, Comparison.read?, Lexeme.at]
  let t : Table := ⟨["a"], [], []⟩
  have hcreate : result "data/" .empty folder true (leading s.events) =
      (.ok true, Database.empty.put "größe" t, folder, "") := by
    rw [hev]
    rfl
  obtain ⟨-, hdb, hfolder, hevents⟩ := s.statement_of_result rfl hcreate
  let second := s.statement.2
  have hu : second.Unlimited := kept_unlimited.statement rfl
  have hdir : second.dir = "data/" := (kept_dir "data/").statement rfl
  have hstored : result second.dir second.database second.folder true (leading second.events) =
      (.ok true, Database.empty.put "größe" t, folder.set ["größe.db", "data"] (.file "a\n".toUTF8),
        "Stored größe.db\n") := by
    rw [hdir, hdb, hfolder, hevents, hev]
    rfl
  obtain ⟨-, hdb', hfolder', hevents'⟩ := second.statement_of_result hu hstored
  let third := second.statement.2
  have hdir' : third.dir = "data/" := (kept_dir "data/").statement hdir
  have hrequests : s.requests cs = asked := by
    have hfirst : s.turn.request = none := by
      rw [request_turn, hev]
      rfl
    have hsecond : second.turn.request = some (.write "data/größe.db" "a\n".toUTF8) := by
      rw [request_turn, hdir, hdb, hevents, hev]
      rfl
    have hthird : third.turn.request = some (.read "data/größe.db") := by
      rw [request_turn, hdir', hdb', hevents', hevents, hev]
      rfl
    change [s.turn, second.turn, third.turn].filterMap Turn.request = asked
    rw [List.filterMap_cons_none hfirst, List.filterMap_cons_some hsecond,
      List.filterMap_cons_some hthird]
    rfl
  obtain ⟨hopens, -, hserved, hkept⟩ :=
    opened_in_directory script "data/" folder .unlimited false hcs
  have hasked : (s.calls cs).folder = folder.serveAll asked := hserved.trans (by rw [hrequests])
  refine ⟨hcs, hrequests, fun request hm => ?_, hasked, by rw [hasked]; rfl, ?_⟩
  · rw [← hrequests] at hm
    obtain ⟨t, ht, hr⟩ := List.mem_filterMap.mp hm
    exact ⟨t, ht, hopens t ht request hr⟩
  · refine (hkept ["b.db", "data"] fun path contents hm => ?_).trans rfl
    have hwrite : FileRequest.write path contents ∈ asked := hrequests ▸ hm
    obtain ⟨rfl, rfl⟩ : path = "data/größe.db" ∧ contents = "a\n".toUTF8 := by
      simpa [asked] using hwrite
    exact fun hl => absurd hl (by decide +kernel)

end Session

end TableShell
