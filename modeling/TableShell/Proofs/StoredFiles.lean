import TableShell.Files.Folder

namespace TableShell

namespace Folder

variable {f f' : Folder} {location other : Location} {entry : Entry} {path : String}
  {contents found : ByteArray}

theorem lookup_setEntry (location other : Location) (entry : Entry)
    (entries : List (Location × Entry)) :
    (setEntry location entry entries).lookup other =
      if other = location then some entry else entries.lookup other := by
  induction entries with
  | nil =>
    by_cases h : other = location
    · simp [setEntry, h]
    · have hb : (other == location) = false := by simpa using h
      simp [setEntry, List.lookup_cons, h, hb]
  | cons known rest ih =>
    obtain ⟨place, was⟩ := known
    rw [setEntry]
    dsimp only
    split
    · rename_i hp
      subst hp
      by_cases h : other = place
      · simp [h]
      · have hb : (other == place) = false := by simpa using h
        simp [List.lookup_cons, h, hb]
    · rename_i hp
      by_cases h : other = place
      · subst h
        simp [hp]
      · have hb : (other == place) = false := by simpa using h
        simp [List.lookup_cons, hb, ih]

theorem entry?_set_of_ne (h : other ≠ location) :
    Folder.entry? (f.set location entry) other = f.entry? other := by
  simp [ entry?, set, lookup_setEntry, h]

theorem entry?_set_self (h : f.entry? location ≠ some .directory) :
    Folder.entry? (f.set location entry) location = some entry := by
  have hg : ¬ location.isGiven = true := by
    intro hg
    simp [ entry?, hg] at h
  simp [ entry?, set, lookup_setEntry, hg]

/-- A way of names leads through directories only, so it does not meet a file. -/
theorem walk_set (h : f.entry? location ≠ some .directory) (here : Location)
    (names : List String) (target : Location) :
    (f.set location (.file contents)).walk here names = .ok target ↔
      f.walk here names = .ok target := by
  induction names generalizing here with
  | nil => rfl
  | cons name rest ih =>
    by_cases hl : here = location
    · subst hl
      rw [walk, entry?_set_self h, walk]
      cases he : f.entry? here with
      | none => simp
      | some entry =>
        cases entry with
        | directory => exact absurd he h
        | file _ => simp
    · rw [walk, walk, entry?_set_of_ne hl]
      split
      · simp
      · simp
      · split
        · exact ih here
        split
        · exact ih here.up
        split
        · simp
        · exact ih (name :: here)

theorem locate_set (h : f.entry? location ≠ some .directory) (path : String) (target : Location) :
    (f.set location (.file contents)).locate path = .ok target ↔ f.locate path = .ok target := by
  unfold locate
  split
  · simp
  split
  · simp
  split
  · simp
  · exact walk_set h _ _ _

theorem write_eq_ok (h : f.write path contents = .ok f') :
    ∃ location, f.locate path = .ok location ∧ f.entry? location ≠ some .directory ∧
      f' = f.set location (.file contents) := by
  rw [write] at h
  split at h
  · cases h
  · rename_i location hl
    split at h <;> cases h
    rename_i hd
    exact ⟨location, hl, hd, rfl⟩

theorem read_eq_ok_iff : f.read path = .ok contents ↔
    ∃ location, f.locate path = .ok location ∧ f.entry? location = some (.file contents) := by
  rw [read, find]
  cases f.locate path with
  | error e => simp
  | ok location =>
    cases he : f.entry? location with
    | none => simp [he]
    | some entry => cases entry <;> simp [he]

theorem read_of_write (h : f.write path contents = .ok f') : f'.read path = .ok contents := by
  obtain ⟨location, hl, hd, rfl⟩ := write_eq_ok h
  exact read_eq_ok_iff.mpr ⟨location, (locate_set hd path location).mpr hl, entry?_set_self hd⟩

theorem read_after_write (h : f.write path contents = .ok f') {other : String}
    (hr : f'.read other = .ok found) : found = contents ∨ f.read other = .ok found := by
  obtain ⟨location, -, hd, rfl⟩ := write_eq_ok h
  obtain ⟨target, ht, he⟩ := read_eq_ok_iff.mp hr
  by_cases hl : target = location
  · subst hl
    rw [entry?_set_self hd] at he
    cases he
    exact .inl rfl
  · rw [entry?_set_of_ne hl] at he
    exact .inr (read_eq_ok_iff.mpr ⟨target, (locate_set hd other target).mp ht, he⟩)

theorem read_of_write_of_ne (h : f.write path contents = .ok f') {other : String}
    (hr : f.read other = .ok found)
    (hne : ∀ location, f.locate path = .ok location → f.locate other ≠ .ok location) :
    f'.read other = .ok found := by
  obtain ⟨location, hl, hd, rfl⟩ := write_eq_ok h
  obtain ⟨target, ht, he⟩ := read_eq_ok_iff.mp hr
  have htl : target ≠ location := by
    rintro rfl
    exact hne target hl ht
  refine read_eq_ok_iff.mpr ⟨target, (locate_set hd other target).mpr ht, ?_⟩
  rw [entry?_set_of_ne htl, he]

theorem walk_append (f : Folder) (here : Location) (names later : List String) :
    f.walk here (names ++ later) = (f.walk here names).bind (f.walk · later) := by
  induction names generalizing here with
  | nil => rfl
  | cons name rest ih =>
    rw [List.cons_append, walk, walk]
    split
    · rfl
    · rfl
    · split
      · exact ih here
      split
      · exact ih here.up
      split
      · rfl
      · exact ih (name :: here)

end Folder

def startOf (dir : String) : Location := if dir.toList.head? = some '/' then ["/"] else []

def namesOf (dir : String) : List String :=
  ((dir.toList.splitOn '/').map String.ofList).filter (· ≠ "")

structure FileName (file : String) : Prop where
  ne_nil : file.toList ≠ []
  no_slash : '/' ∉ file.toList

/-- A last name that leads down from its directory. -/
structure ChildName (file : String) : Prop extends FileName file where
  ne_here : file ≠ "."
  ne_up : file ≠ ".."

/-- The path is that of the directory with one more name, which leads down from it. -/
structure ChildPath (dir file path : String) : Prop where
  child : ChildName file
  text : path = dir ++ file ∨ path = dir ++ "/" ++ file
  names : pathNames path = namesOf dir ++ [file]
  absolute_iff : path.toList.head? = some '/' ↔ dir.toList.head? = some '/'

variable {file path dir : String}

theorem FileName.ne_empty (h : FileName file) : file ≠ "" := by
  rintro rfl
  exact h.ne_nil rfl

theorem pathNames_of_slash (h : FileName file)
    (hp : path.toList = dir.toList ++ '/' :: file.toList) :
    pathNames path = namesOf dir ++ [file] := by
  have hne : file ≠ "" := h.ne_empty
  simp [pathNames, namesOf, hp, List.splitOn_append_cons_self, List.splitOn_eq_singleton h.no_slash,
    hne]

theorem pathNames_joinPath (h : FileName file) (dir : String) :
    pathNames (joinPath dir file) = namesOf dir ++ [file] := by
  have hne : file ≠ "" := h.ne_empty
  have hhead : file.toList.head? ≠ some '/' := fun hh => h.no_slash (List.mem_of_head? hh)
  rw [joinPath, if_neg hhead]
  split
  · rename_i hd
    obtain rfl | hlast : dir = "" ∨ dir.toList.getLast? = some '/' := by simpa using hd
    · simp [pathNames, namesOf, List.splitOn_eq_singleton h.no_slash, hne]
    · obtain ⟨before, hb⟩ := List.getLast?_eq_some_iff.mp hlast
      have hpath : (dir ++ file).toList = (String.ofList before).toList ++ '/' :: file.toList := by
        simp [hb]
      rw [pathNames_of_slash h hpath]
      simp [namesOf, hb, List.splitOn_append_cons_self]
  · exact pathNames_of_slash h (by simp)

theorem head?_joinPath (h : FileName file) (dir : String) :
    (joinPath dir file).toList.head? = some '/' ↔ dir.toList.head? = some '/' := by
  have hhead : file.toList.head? ≠ some '/' := fun hh => h.no_slash (List.mem_of_head? hh)
  rw [joinPath, if_neg hhead]
  cases hd : dir.toList with
  | nil =>
    obtain rfl : dir = "" := String.toList_inj.mp hd
    simpa using hhead
  | cons c cs => split <;> simp [hd]

theorem ChildName.childPath (h : ChildName file) (dir : String) :
    ChildPath dir file (joinPath dir file) where
  child := h
  text := by
    have hhead : file.toList.head? ≠ some '/' := fun hh => h.no_slash (List.mem_of_head? hh)
    rw [joinPath, if_neg hhead]
    split
    · exact .inl rfl
    · exact .inr rfl
  names := pathNames_joinPath h.toFileName dir
  absolute_iff := head?_joinPath h.toFileName dir

theorem ChildPath.file_eq {other : String} (h : ChildPath dir file path)
    (h' : ChildPath dir other path) : file = other := by
  have hnames := h.names.symm.trans h'.names
  exact List.singleton_inj.mp (List.append_cancel_left hnames)

namespace Folder

variable {f : Folder} {location : Location}

theorem locate_joinPath (h : FileName file) (hl : f.locate (joinPath dir file) = .ok location) :
    f.walk (startOf dir) (namesOf dir ++ [file]) = .ok location := by
  rw [locate] at hl
  split at hl
  · cases hl
  split at hl
  · cases hl
  split at hl
  · cases hl
  · simpa [pathNames_joinPath h, head?_joinPath h, startOf] using hl

theorem exists_of_walk_concat {here : Location} {names : List String} (hdot : file ≠ ".")
    (hup : file ≠ "..") (h : f.walk here (names ++ [file]) = .ok location) :
    ∃ inside, f.walk here names = .ok inside ∧ location = file :: inside := by
  rw [walk_append] at h
  cases hw : f.walk here names with
  | error e =>
    rw [hw] at h
    cases h
  | ok inside =>
    rw [hw] at h
    simp only [Except.bind, walk, hdot, hup, if_false] at h
    split at h
    · cases h
    · cases h
    · split at h <;> cases h
      exact ⟨inside, rfl, rfl⟩

theorem exists_of_locate_child (h : ChildName file)
    (hl : f.locate (joinPath dir file) = .ok location) :
    ∃ inside, f.walk (startOf dir) (namesOf dir) = .ok inside ∧ location = file :: inside :=
  exists_of_walk_concat h.ne_here h.ne_up (locate_joinPath h.toFileName hl)

theorem walk_of_walk_dot {here : Location} {names : List String}
    (h : f.walk here (names ++ ["."]) = .ok location) : f.walk here names = .ok location := by
  rw [walk_append] at h
  cases hw : f.walk here names with
  | error e =>
    rw [hw] at h
    cases h
  | ok inside =>
    rw [hw] at h
    simp only [Except.bind, walk, if_true] at h
    split at h <;> cases h
    rfl

end Folder

end TableShell
