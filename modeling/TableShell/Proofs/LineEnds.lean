import TableShell.Proofs.ScannedText
import TableShell.Proofs.SessionPairs
import TableShell.Proofs.StoredFiles

namespace TableShell

namespace Text

def withReturns (bytes : List UInt8) : List UInt8 :=
  bytes.flatMap fun byte => if byte = 10 then [13, 10] else [byte]

/-- The same bytes, or bytes without carriage returns and the same with one for each line end. -/
inductive SameLines : ByteArray → ByteArray → Prop
  | refl (contents : ByteArray) : SameLines contents contents
  | returns {contents : ByteArray} (h : 13 ∉ contents.data.toList) :
    SameLines contents ⟨(withReturns contents.data.toList).toArray⟩

theorem splitOn_withReturns (bytes : List UInt8) :
    ((withReturns bytes).splitOn 10).dropLast = (bytes.splitOn 10).dropLast.map (· ++ [13]) ∧
      ((withReturns bytes).splitOn 10).getLast? = (bytes.splitOn 10).getLast? := by
  induction bytes with
  | nil => exact ⟨rfl, rfl⟩
  | cons byte bytes ih =>
    obtain ⟨first, rest, hs⟩ := exists_splitOn_eq_cons 10 bytes
    obtain ⟨first', rest', hs'⟩ := exists_splitOn_eq_cons 10 (withReturns bytes)
    rw [hs, hs'] at ih
    obtain ⟨hinit, hlast⟩ := ih
    by_cases hb : byte = 10
    · subst hb
      have hcut : (withReturns (10 :: bytes)).splitOn 10 = [13] :: first' :: rest' := by
        change (13 :: 10 :: withReturns bytes).splitOn 10 = _
        simp [List.splitOn_cons_eq_if_modifyHead, hs']
      have hcut' : (10 :: bytes).splitOn 10 = [] :: first :: rest := by
        simp [List.splitOn_cons_eq_if_modifyHead, hs]
      rw [hcut, hcut', List.dropLast_cons_cons, List.dropLast_cons_cons, hinit]
      exact ⟨rfl, hlast⟩
    · have hkept : withReturns (byte :: bytes) = byte :: withReturns bytes := by
        simp [withReturns, hb]
      have hcut : (byte :: withReturns bytes).splitOn 10 = (byte :: first') :: rest' := by
        simp [List.splitOn_cons_eq_if_modifyHead, hs', hb]
      have hcut' : (byte :: bytes).splitOn 10 = (byte :: first) :: rest := by
        simp [List.splitOn_cons_eq_if_modifyHead, hs, hb]
      rw [hkept, hcut, hcut']
      cases rest with
      | nil =>
        cases rest' with
        | nil => simpa using hlast
        | cons next later => simp at hinit
      | cons next later =>
        cases rest' with
        | nil => simp at hinit
        | cons next' later' =>
          rw [List.dropLast_cons_cons, List.dropLast_cons_cons, List.map_cons, List.cons.injEq]
            at hinit
          obtain ⟨rfl, hinit⟩ := hinit
          rw [List.dropLast_cons_cons, List.dropLast_cons_cons, List.map_cons, hinit]
          exact ⟨rfl, hlast⟩

theorem decode?_concat_return (line : List UInt8) :
    decode? (line ++ [13]) = (decode? line).map (· ++ "\r") := by
  have hreturn : encode "\r" = [13] := by decide
  cases hd : decode? line with
  | some s =>
    rw [← encode_of_decode? hd, ← hreturn, ← encode_append, decode?_encode]
    rfl
  | none =>
    rw [Option.map_none, Option.eq_none_iff_forall_ne_some]
    intro s hs
    have hbytes := encode_of_decode? hs
    have hlast : s.toList.getLast? = some '\r' := by
      rw [← return_last_encode_iff, hbytes, List.getLast?_concat]
    obtain ⟨before, hb⟩ := List.getLast?_eq_some_iff.mp hlast
    have hsplit : s = String.ofList before ++ "\r" := by
      apply String.toList_inj.mp
      rw [hb, String.toList_append, String.toList_ofList]
      rfl
    rw [hsplit, encode_append, hreturn] at hbytes
    rw [← List.append_cancel_right hbytes, decode?_encode] at hd
    cases hd

theorem dropReturns_concat_return (s : String) : dropReturns (s ++ "\r") = dropReturns s := by
  have hreturn : "\r".toList = ['\r'] := rfl
  rw [dropReturns, dropReturns, String.toList_append, hreturn, dropEndWhile_eq, dropEndWhile_eq,
    List.rdropWhile_concat_pos _ _ _ (by rfl)]

theorem map_dropReturns_decodeLines (lines later : List (List UInt8)) :
    (decodeLines (lines.map (· ++ [13]) ++ later)).map dropReturns =
      (decodeLines (lines ++ later)).map dropReturns := by
  induction lines with
  | nil => rfl
  | cons line rest ih =>
    simp only [List.map_cons, List.cons_append, decodeLines, decode?_concat_return]
    cases decode? line with
    | none => rfl
    | some s =>
      rw [Option.map_some]
      simp only [List.map_cons, dropReturns_concat_return, ih]

variable {contents contents' : ByteArray}

theorem scriptLines_of_sameLines (h : SameLines contents contents') :
    scriptLines contents' = scriptLines contents := by
  cases h with
  | refl => rfl
  | returns h =>
    obtain ⟨hinit, hlast⟩ := splitOn_withReturns contents.data.toList
    simp only [scriptLines, unended, pieces, hinit, hlast]
    exact map_dropReturns_decodeLines _ _

theorem recordLines_of_sameLines (h : SameLines contents contents') :
    recordLines contents' = recordLines contents := by
  cases h with
  | refl => rfl
  | returns h =>
    obtain ⟨hinit, hlast⟩ := splitOn_withReturns contents.data.toList
    simp only [recordLines, unended, pieces, hinit, hlast, List.map_map]
    congr 1
    apply List.map_congr_left
    intro line hl
    have hnone : line.getLast? ≠ some 13 := by
      intro hr
      apply h
      apply (flatten_splitOn_sublist 10 contents.data.toList).subset
      exact List.mem_flatten_of_mem (List.dropLast_subset _ hl) (List.mem_of_getLast? hr)
    rw [Function.comp_apply, dropReturn_concat_return, dropReturn_eq_self_iff.mpr hnone]

end Text

namespace Table

variable {contents contents' : ByteArray}

theorem ofFile_of_sameLines (h : Text.SameLines contents contents') (path : String) :
    ofFile path contents' = ofFile path contents := by
  rw [ofFile, ofFile, Text.recordLines_of_sameLines h]

end Table

inductive Entry.SameLines : Entry → Entry → Prop
  | directory : SameLines .directory .directory
  | file {contents contents' : ByteArray} (h : Text.SameLines contents contents') :
    SameLines (.file contents) (.file contents')

namespace Folder

def SameLines (f f' : Folder) : Prop :=
  ∀ location, Option.Rel Entry.SameLines (f.entry? location) (f'.entry? location)

def rewrite (f : Folder) (writes : List (Location × ByteArray)) : Folder :=
  writes.foldl (fun f written => f.set written.1 (.file written.2)) f

inductive Answered : Except FileError ByteArray → Except FileError ByteArray → Prop
  | error (e : FileError) : Answered (.error e) (.error e)
  | ok {contents contents' : ByteArray} (h : Text.SameLines contents contents') :
    Answered (.ok contents) (.ok contents')

namespace SameLines

variable {f f' : Folder}

theorem walk_eq (h : f.SameLines f') (here : Location) (names : List String) :
    f'.walk here names = f.walk here names := by
  induction names generalizing here with
  | nil => rfl
  | cons name rest ih =>
    have hhere := h here
    rw [walk, walk]
    generalize f.entry? here = entry, f'.entry? here = entry' at hhere
    cases hhere with
    | none => rfl
    | some he =>
      cases he with
      | directory => simp only [ih]
      | file _ => rfl

theorem locate_eq (h : f.SameLines f') (path : String) : f'.locate path = f.locate path := by
  rw [locate, locate, h.walk_eq]

theorem read (h : f.SameLines f') (path : String) : Answered (f.read path) (f'.read path) := by
  rw [Folder.read, Folder.read, find, find, h.locate_eq]
  cases f.locate path with
  | error e => exact .error e
  | ok location =>
    have hentry := h location
    dsimp only
    generalize f.entry? location = entry, f'.entry? location = entry' at hentry
    cases hentry with
    | none => exact .error _
    | some he =>
      cases he with
      | directory => exact .error _
      | file hc => exact .ok hc

theorem not_directory (h : f.SameLines f') {location : Location}
    (hd : f.entry? location ≠ some .directory) : f'.entry? location ≠ some .directory := by
  have hentry := h location
  generalize f.entry? location = entry, f'.entry? location = entry' at hentry hd
  cases hentry with
  | none => simp
  | some he =>
    cases he with
    | directory => exact absurd rfl hd
    | file _ => simp

theorem refl (f : Folder) : f.SameLines f := by
  intro location
  cases f.entry? location with
  | none => exact .none
  | some entry =>
    cases entry with
    | directory => exact .some .directory
    | file contents => exact .some (.file (.refl contents))

theorem set (h : f.SameLines f') {location : Location} (hd : f.entry? location ≠ some .directory)
    {contents contents' : ByteArray} (hc : Text.SameLines contents contents') :
    (f.set location (.file contents)).SameLines (f'.set location (.file contents')) := by
  intro other
  by_cases ho : other = location
  · subst ho
    rw [entry?_set_self hd, entry?_set_self (h.not_directory hd)]
    exact .some (.file hc)
  · rw [entry?_set_of_ne ho, entry?_set_of_ne ho]
    exact h other

theorem write (h : f.SameLines f') (path : String) (contents : ByteArray) :
    (∃ e, f.write path contents = .error e ∧ f'.write path contents = .error e) ∨
      ∃ location, f.entry? location ≠ some .directory ∧
        f.write path contents = .ok (f.set location (.file contents)) ∧
        f'.write path contents = .ok (f'.set location (.file contents)) := by
  rw [Folder.write, Folder.write, h.locate_eq]
  cases f.locate path with
  | error e => exact .inl ⟨e, rfl, rfl⟩
  | ok location =>
    by_cases hd : f.entry? location = some .directory
    · have hd' : f'.entry? location = some .directory := by
        have hentry := h location
        rw [hd] at hentry
        generalize f'.entry? location = entry' at hentry ⊢
        cases hentry with
        | some he =>
          cases he
          rfl
      exact .inl ⟨.isDirectory, by simp only [hd], by simp only [hd']⟩
    · right
      have hd' := h.not_directory hd
      refine ⟨location, hd, ?_, ?_⟩
      · dsimp only
        split
        · exact absurd ‹_› hd
        · rfl
      · dsimp only
        split
        · exact absurd ‹_› hd'
        · rfl

theorem serve (h : f.SameLines f') (request : Option FileRequest) :
    Answered (f.serve request).1 (f'.serve request).1 ∧
      (f.serve request).2.SameLines (f'.serve request).2 ∧
      ∃ writes, (f.serve request).2 = f.rewrite writes ∧
        (f'.serve request).2 = f'.rewrite writes := by
  match request with
  | none => exact ⟨.ok (.refl _), h, [], rfl, rfl⟩
  | some (.read path) => exact ⟨h.read path, h, [], rfl, rfl⟩
  | some (.write path contents) =>
    rw [Folder.serve, Folder.serve]
    obtain ⟨e, hw, hw'⟩ | ⟨location, hd, hw, hw'⟩ := h.write path contents <;> rw [hw, hw']
    · exact ⟨.error e, h, [], rfl, rfl⟩
    · exact ⟨.ok (.refl _), h.set hd (.refl contents), [(location, contents)], rfl, rfl⟩

end SameLines

end Folder

theorem Statement.effect_of_answered {file file' : Except FileError ByteArray}
    (h : Folder.Answered file file') (dir : String) (db : Database) (statement : Statement) :
    statement.effect dir db file' = statement.effect dir db file := by
  cases h with
  | error e => rfl
  | ok h =>
    cases statement with
    | load name => simp only [effect, loadedTable, Table.ofFile_of_sameLines h]
    | _ => rfl

namespace Session

/-- The sessions differ in their files alone. What has been written to the files that they started
with is the same. -/
structure Beside (f f' : Folder) (s s' : Session) : Prop where
  same : s' = { s with folder := s'.folder }
  sameLines : s.folder.SameLines s'.folder
  written : ∃ writes, s.folder = f.rewrite writes ∧ s'.folder = f'.rewrite writes

namespace Beside

variable {f f' : Folder} {s s' : Session}

theorem execute (h : Beside f f' s s') (statement : Statement) :
    (s.execute statement).1 = (s'.execute statement).1 ∧
      Beside f f' (s.execute statement).2 (s'.execute statement).2 := by
  obtain ⟨hsame, hlines, writes, hf, hf'⟩ := h
  generalize s'.folder = folder' at hsame hlines hf'
  subst hsame
  obtain ⟨hanswer, hserved, later, hl, hl'⟩ := hlines.serve (statement.request s.dir s.database)
  have hwritten : ∃ writes, (s.folder.serve (statement.request s.dir s.database)).2 =
      f.rewrite writes ∧ (folder'.serve (statement.request s.dir s.database)).2 =
        f'.rewrite writes := by
    refine ⟨writes ++ later, ?_, ?_⟩
    · rw [hl, hf, Folder.rewrite, Folder.rewrite, Folder.rewrite, List.foldl_append]
    · rw [hl', hf', Folder.rewrite, Folder.rewrite, Folder.rewrite, List.foldl_append]
  simp only [Session.execute, Statement.effect_of_answered hanswer]
  split
  · exact ⟨rfl, rfl, hserved, hwritten⟩
  · split
    · exact ⟨rfl, rfl, hserved, hwritten⟩
    · exact ⟨rfl, rfl, hserved, hwritten⟩

end Beside

theorem paired_beside (f f' : Folder) : Paired (Beside f f') where
  read h := by
    rw [h.same]
    exact ⟨rfl, rfl, h.sameLines, h.written⟩
  execute statement h := h.execute statement
  skip h := by
    rw [h.same]
    exact ⟨rfl, h.sameLines, h.written⟩
  report text h := by
    rw [h.same]
    exact ⟨rfl, rfl, h.sameLines, h.written⟩

/-- Scripts and files that differ in their line ends make no difference: the same tokens stand on
the same lines, all calls have the same results, the sessions have the same tables and have written
the same, prompts among it, and the same has been written to files. -/
theorem replies_of_sameLines {script script' : ByteArray} (hscript : Text.SameLines script script')
    {folder folder' : Folder} (hfolder : folder.SameLines folder') (dir : String) (output : Output)
    (prompting : Bool) (cs : List Call) :
    let s := new (Text.scriptLines script) dir folder output prompting
    let s' := new (Text.scriptLines script') dir folder' output prompting
    s.events = s'.events ∧ s.replies cs = s'.replies cs ∧
      (s.calls cs).database = (s'.calls cs).database ∧
      (s.calls cs).output = (s'.calls cs).output ∧
      ∃ writes, (s.calls cs).folder = folder.rewrite writes ∧
        (s'.calls cs).folder = folder'.rewrite writes := by
  intro s s'
  have hbeside : Beside folder folder' s s' := by
    refine ⟨?_, hfolder, [], rfl, rfl⟩
    simp only [s, s', new, Text.scriptLines_of_sameLines hscript]
  obtain ⟨hreplies, hafter⟩ := (paired_beside folder folder').replies hbeside cs
  refine ⟨?_, hreplies, ?_, ?_, hafter.written⟩
  · rw [hbeside.same]
    rfl
  · rw [hafter.same]
  · rw [hafter.same]

theorem replies_of_sameLines_with_empty_cell :
    let script := "load t;\nprint t;\nstore t;\n".toUTF8
    let script' := "load t;\r\nprint t;\r\nstore t;\r\n".toUTF8
    let folder := Folder.empty.set ["t.db"] (.file "k\n\nx".toUTF8)
    let folder' := Folder.empty.set ["t.db"] (.file "k\r\n\r\nx".toUTF8)
    let s := new (Text.scriptLines script) "" folder .unlimited true
    let s' := new (Text.scriptLines script') "" folder' .unlimited true
    Text.SameLines script script' ∧ folder.SameLines folder' ∧
      s.replies [.run] = s'.replies [.run] ∧
      (s.calls [.run]).output = (s'.calls [.run]).output ∧
      ∃ writes, (s.calls [.run]).folder = folder.rewrite writes ∧
        (s'.calls [.run]).folder = folder'.rewrite writes := by
  intro script script' folder folder' s s'
  have hscript : Text.SameLines script script' := @Text.SameLines.returns script (by decide)
  have hfile : Text.SameLines "k\n\nx".toUTF8 "k\r\n\r\nx".toUTF8 :=
    @Text.SameLines.returns "k\n\nx".toUTF8 (by decide)
  have hfolder : folder.SameLines folder' :=
    (Folder.SameLines.refl Folder.empty).set
      (by simp [Folder.entry?, Location.isGiven, Folder.empty]) hfile
  obtain ⟨-, hreplies, -, houtput, hwrites⟩ :=
    replies_of_sameLines hscript hfolder "" .unlimited true [.run]
  exact ⟨hscript, hfolder, hreplies, houtput, hwrites⟩

end Session

end TableShell
