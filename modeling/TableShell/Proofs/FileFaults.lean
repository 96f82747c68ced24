import TableShell.Proofs.FileText

namespace TableShell

namespace Text

/-- Bytes, and the lines that they are made of. A line ends with a line feed, or with a carriage
return and a line feed; after the last line feed there is a line only if anything stands there. -/
inductive Lined : List UInt8 → List (List UInt8) → Prop
  | nil : Lined [] []
  | unended {line : List UInt8} (ne_nil : line ≠ []) (no_lineFeed : 10 ∉ line) : Lined line [line]
  | lineFeed {line rest : List UInt8} {lines : List (List UInt8)} (no_lineFeed : 10 ∉ line)
      (no_return_last : line.getLast? ≠ some 13) (later : Lined rest lines) :
    Lined (line ++ 10 :: rest) (line :: lines)
  | returnLineFeed {line rest : List UInt8} {lines : List (List UInt8)} (no_lineFeed : 10 ∉ line)
      (later : Lined rest lines) : Lined (line ++ 13 :: 10 :: rest) (line :: lines)

theorem recordLines_of_unended {line : List UInt8} (h : 10 ∉ line) :
    recordLines ⟨line.toArray⟩ = if line = [] then [] else [line] := by
  have hpieces : pieces ⟨line.toArray⟩ = [line] := List.splitOn_eq_singleton h
  rw [recordLines, unended, hpieces]
  split <;> rename_i hl <;> simp [Option.filter, hl]

theorem recordLines_of_ended {line : List UInt8} (h : 10 ∉ line) (rest : List UInt8) :
    recordLines ⟨(line ++ 10 :: rest).toArray⟩ =
      dropReturn line :: recordLines ⟨rest.toArray⟩ := by
  have hpieces : pieces ⟨(line ++ 10 :: rest).toArray⟩ = line :: pieces ⟨rest.toArray⟩ :=
    List.splitOn_append_cons_self_of_not_mem h rest
  have hne : pieces ⟨rest.toArray⟩ ≠ [] := List.splitOn_ne_nil 10 rest
  rw [recordLines, recordLines, unended, unended, hpieces, List.dropLast_cons_of_ne_nil hne,
    List.getLast?_cons, List.getLast?_eq_some_getLast hne]
  rfl

theorem lined_recordLines (bytes : List UInt8) : Lined bytes (recordLines ⟨bytes.toArray⟩) := by
  by_cases h : 10 ∈ bytes
  · obtain ⟨line, rest, hbytes, hline⟩ := List.eq_append_cons_of_mem h
    have hlater := lined_recordLines rest
    rw [hbytes, recordLines_of_ended hline]
    by_cases hr : line.getLast? = some 13
    · obtain ⟨before, rfl⟩ := List.getLast?_eq_some_iff.mp hr
      rw [dropReturn_concat_return, List.append_assoc]
      exact .returnLineFeed (fun hm => hline (List.mem_append_left _ hm)) hlater
    · rw [dropReturn_eq_self_iff.mpr hr]
      exact .lineFeed hline hr hlater
  · rw [recordLines_of_unended h]
    split <;> rename_i hl
    · rw [hl]
      exact .nil
    · exact .unended hl h
termination_by bytes.length
decreasing_by
  rw [hbytes, List.length_append, List.length_cons]
  omega

theorem recordLines_of_lined {bytes : List UInt8} {lines : List (List UInt8)}
    (h : Lined bytes lines) : recordLines ⟨bytes.toArray⟩ = lines := by
  induction h with
  | nil => rfl
  | unended ne_nil no_lineFeed => rw [recordLines_of_unended no_lineFeed, if_neg ne_nil]
  | lineFeed no_lineFeed no_return_last _ ih =>
    rw [recordLines_of_ended no_lineFeed, dropReturn_eq_self_iff.mpr no_return_last, ih]
  | @returnLineFeed line rest lines no_lineFeed _ ih =>
    have hline : 10 ∉ line ++ [13] := by simpa using no_lineFeed
    rw [← List.singleton_append, ← List.append_assoc, recordLines_of_ended hline,
      dropReturn_concat_return, ih]

end Text

def Row.OnLine (line : List UInt8) (row : Row) : Prop :=
  row.Delimited ∧ line = Text.encode row.text

theorem Row.ofLine_iff_onLine {path : String} {line : List UInt8} {row : Row} :
    ofLine path line = .ok row ↔ OnLine line row := ofLine_eq_ok_iff

theorem Row.ofLine_eq_error_iff {path : String} {line : List UInt8} {fault : Fault} :
    ofLine path line = .error fault ↔ (∀ s, line ≠ Text.encode s) ∧
      fault = .file path "stream did not contain valid UTF-8" := by
  rw [ofLine]
  cases hd : Text.decode? line with
  | none =>
    have hinvalid : ∀ s, line ≠ Text.encode s := by
      rintro s rfl
      rw [Text.decode?_encode] at hd
      cases hd
    simp [hinvalid, eq_comm]
  | some s =>
    have hvalid : ¬∀ s, line ≠ Text.encode s := fun h => h s (Text.encode_of_decode? hd).symm
    simp [hvalid]

namespace Table

/-- The lines are those of a table with these titles, and with these rows as they are added. -/
structure Tabular (lines : List (List UInt8)) (titles : Row) (rows : List Row) : Prop where
  on_lines : List.Forall₂ Row.OnLine lines (titles :: rows)
  titles_nodup : titles.Nodup
  width_eq : ∀ row ∈ rows, row.length = titles.length

inductive Spoils (path : String) (before : List (List UInt8)) (line : List UInt8) : Fault → Prop
  | encoding (invalid : ∀ s, line ≠ Text.encode s) :
    Spoils path before line (.file path "stream did not contain valid UTF-8")
  | titles {titles : Row} {name : String} (first : before = [])
      (on_line : Row.OnLine line titles) (repeated : FirstRepeated titles name) :
    Spoils path before line (.format path 1 (Fault.duplicateColumn name).message)
  | width {titles row : Row} {rows : List Row} (table : Tabular before titles rows)
      (on_line : Row.OnLine line row) (width_ne : row.length ≠ titles.length) :
    Spoils path before line
      (.format path (before.length + 1) (Fault.arity titles.length row.length).message)

def Unfit (path : String) (width number : Nat) (line : List UInt8) (fault : Fault) : Prop :=
  Row.ofLine path line = .error fault ∨ ∃ row, Row.OnLine line row ∧ row.length ≠ width ∧
    fault = .format path number (Fault.arity width row.length).message

variable {t start : Table} {path : String} {fault : Fault} {lines : List (List UInt8)}
  {number : Nat}

theorem locate_eq_error_iff {α : Type} {x : Except Fault α} :
    locate path number x = .error fault ↔
      ∃ cause, x = .error cause ∧ fault = .format path number cause.message := by
  cases x with
  | error cause => simp [locate, Except.mapError, eq_comm]
  | ok a => simp [locate, Except.mapError]

theorem insertLines_eq_error_iff :
    insertLines path t number lines = .error fault ↔
      ∃ before line after rows, lines = before ++ line :: after ∧
        List.Forall₂ Row.OnLine before rows ∧ (∀ row ∈ rows, row.length = t.width) ∧
        Unfit path t.width (number + before.length) line fault := by
  induction lines generalizing t number with
  | nil => simp [insertLines]
  | cons line rest ih =>
    rw [insertLines, bind_eq_error_iff]
    constructor
    · rintro (hline | ⟨row, hrow, h⟩)
      · exact ⟨[], line, rest, [], rfl, .nil, by simp, .inl hline⟩
      · have hon := Row.ofLine_iff_onLine.mp hrow
        obtain hi | ⟨⟨added, t'⟩, hi, hlater⟩ := bind_eq_error_iff.mp h
        · obtain ⟨cause, hcause, rfl⟩ := locate_eq_error_iff.mp hi
          obtain ⟨hw, rfl⟩ := insert_eq_error_iff.mp hcause
          exact ⟨[], line, rest, [], rfl, .nil, by simp, .inr ⟨row, hon, hw, rfl⟩⟩
        · replace hi := eq_ok_of_locate_eq_ok hi
          obtain ⟨before, bad, after, rows, rfl, hrows, hall, hbad⟩ := ih.mp hlater
          rw [width_of_insert hi] at hall hbad
          refine ⟨line :: before, bad, after, row :: rows, rfl, .cons hon hrows,
            List.forall_mem_cons.mpr ⟨(insert_eq_ok hi).1, hall⟩, ?_⟩
          rwa [List.length_cons, ← Nat.add_assoc, Nat.add_right_comm]
    · rintro ⟨before, bad, after, rows, he, hrows, hall, hbad⟩
      cases hrows with
      | nil =>
        obtain ⟨rfl, rfl⟩ := List.cons.inj he
        obtain h | ⟨row, hon, hw, rfl⟩ := hbad
        · exact .inl h
        · refine .inr ⟨row, Row.ofLine_iff_onLine.mpr hon, bind_eq_error_iff.mpr (.inl ?_)⟩
          exact locate_eq_error_iff.mpr ⟨_, insert_eq_error_iff.mpr ⟨hw, rfl⟩, rfl⟩
      | @cons first row before rows hon hrows =>
        obtain ⟨rfl, rfl⟩ := List.cons.inj he
        obtain ⟨hw, hall⟩ := List.forall_mem_cons.mp hall
        obtain ⟨added, t', hi⟩ := exists_insert_of_width hw
        refine .inr ⟨row, Row.ofLine_iff_onLine.mpr hon,
          bind_eq_error_iff.mpr (.inr ⟨(added, t'), by rw [hi]; rfl, ?_⟩)⟩
        refine ih.mpr ⟨before, bad, after, rows, rfl, hrows, ?_, ?_⟩ <;> rw [width_of_insert hi]
        · exact hall
        · rwa [List.length_cons, ← Nat.add_assoc, Nat.add_right_comm] at hbad

variable {contents : ByteArray} {titles : Row} {rows : List Row}

theorem ofFile_of_titles {header : List UInt8} (hl : Text.recordLines contents = header :: lines)
    (hon : Row.OnLine header titles) (hd : titles.Nodup) :
    ofFile path contents = insertLines path ⟨titles, [], []⟩ 2 lines := by
  rw [ofFile, hl]
  dsimp only
  rw [Row.ofLine_iff_onLine.mpr hon]
  change (locate path 1 (ofTitles titles) >>= _) = _
  rw [ofTitles_of_nodup hon.1.ne_nil hd]
  rfl

theorem ofFile_of_tabular {before after : List (List UInt8)} {line : List UInt8}
    (hl : Text.recordLines contents = before ++ line :: after) (ht : Tabular before titles rows)
    (hbad : Unfit path titles.length (before.length + 1) line fault) :
    ofFile path contents = .error fault := by
  obtain ⟨on_lines, hd, hall⟩ := ht
  cases on_lines with
  | @cons header _ before rows hon hrows =>
    rw [ofFile_of_titles hl hon hd]
    refine insertLines_eq_error_iff.mpr ⟨before, line, after, rows, rfl, hrows, hall, ?_⟩
    rwa [Nat.add_comm 2]

theorem ofFile_eq_error_iff :
    ofFile path contents = .error fault ↔
      Text.recordLines contents = [] ∧ fault = .format path 1 "missing header" ∨
        ∃ before line after, Text.recordLines contents = before ++ line :: after ∧
          (before = [] ∨ ∃ titles rows, Tabular before titles rows) ∧
          Spoils path before line fault := by
  cases hl : Text.recordLines contents with
  | nil => simp [ofFile, hl, eq_comm]
  | cons header lines =>
    simp only [reduceCtorEq, false_and, false_or]
    constructor
    · intro h
      rw [ofFile, hl] at h
      obtain hline | ⟨titles, hon, hrest⟩ := bind_eq_error_iff.mp h
      · obtain ⟨hinvalid, rfl⟩ := Row.ofLine_eq_error_iff.mp hline
        exact ⟨[], header, lines, rfl, .inl rfl, .encoding hinvalid⟩
      rw [Row.ofLine_iff_onLine] at hon
      obtain hheader | ⟨start, hstart, hlater⟩ := bind_eq_error_iff.mp hrest
      · obtain ⟨cause, hcause, rfl⟩ := locate_eq_error_iff.mp hheader
        obtain ⟨hempty, -⟩ | ⟨name, hrepeated, rfl⟩ := ofTitles_eq_error_iff.mp hcause
        · exact absurd hempty hon.1.ne_nil
        · exact ⟨[], header, lines, rfl, .inl rfl, .titles rfl hon hrepeated⟩
      replace hstart := eq_ok_of_locate_eq_ok hstart
      obtain ⟨before, line, after, rows, rfl, hrows, hall, hbad⟩ :=
        insertLines_eq_error_iff.mp hlater
      obtain ⟨rfl, -⟩ := titles_of_ofTitles hstart
      have htable : Tabular (header :: before) start.titles rows :=
        ⟨.cons hon hrows, (valid_ofTitles hstart).titles_nodup, hall⟩
      refine ⟨header :: before, line, after, rfl, .inr ⟨_, rows, htable⟩, ?_⟩
      obtain hline | ⟨row, hrow, hw, rfl⟩ := hbad
      · obtain ⟨hinvalid, rfl⟩ := Row.ofLine_eq_error_iff.mp hline
        exact .encoding hinvalid
      · rw [Nat.add_comm 2]
        exact .width htable hrow hw
    · rintro ⟨before, line, after, he, hbefore, hspoils⟩
      rw [he] at hl
      cases hspoils with
      | encoding invalid =>
        have hline : Row.ofLine path line = .error _ := Row.ofLine_eq_error_iff.mpr ⟨invalid, rfl⟩
        obtain rfl | ⟨titles, rows, htable⟩ := hbefore
        · rw [ofFile, hl]
          exact bind_eq_error_iff.mpr (.inl hline)
        · exact ofFile_of_tabular hl htable (.inl hline)
      | titles first on_line repeated =>
        subst first
        have hstart := ofTitles_eq_error_iff.mpr (.inr ⟨_, repeated, rfl⟩)
        rw [ofFile, hl]
        refine bind_eq_error_iff.mpr (.inr ⟨_, Row.ofLine_iff_onLine.mpr on_line, ?_⟩)
        exact bind_eq_error_iff.mpr (.inl (locate_eq_error_iff.mpr ⟨_, hstart, rfl⟩))
      | width table on_line width_ne =>
        exact ofFile_of_tabular hl table (.inr ⟨_, on_line, width_ne, rfl⟩)

theorem ofFile_eq_ok_iff_tabular :
    ofFile path contents = .ok t ↔ ∃ titles rows start,
      Tabular (Text.recordLines contents) titles rows ∧ ofTitles titles = .ok start ∧
        start.insertAll rows = .ok t := by
  rw [ofFile_eq_ok_iff]
  simp only [Row.ofLine_iff_onLine]
  constructor
  · rintro ⟨titles, rows, start, hlines, hstart, hall⟩
    have hwidth := width_of_insertAll hall
    obtain ⟨rfl, -⟩ := titles_of_ofTitles hstart
    exact ⟨start.titles, rows, start, ⟨hlines, (valid_ofTitles hstart).titles_nodup, hwidth⟩,
      hstart, hall⟩
  · rintro ⟨titles, rows, start, htable, hstart, hall⟩
    exact ⟨titles, rows, start, htable.on_lines, hstart, hall⟩

theorem Tabular.insertAll (h : Tabular lines titles rows) :
    ∃ start t, ofTitles titles = .ok start ∧ start.insertAll rows = .ok t := by
  have hne : titles ≠ [] := by
    obtain ⟨header, _, hon, -⟩ := List.forall₂_cons_right_iff.mp h.on_lines
    exact hon.1.ne_nil
  have hstart := ofTitles_of_nodup hne h.titles_nodup
  obtain ⟨t, ht, -⟩ := (valid_ofTitles hstart).insertAll_eq_ok h.width_eq
  exact ⟨_, t, hstart, ht⟩

/-- A file has one list of lines. If they are those of a table, this table is read: the titles of
the first line, and the rows of the others, added in their order. Otherwise the file is refused, for
having no line, or for the first line that spoils it; whatever comes after that line, the fault is
the same. -/
theorem ofFile_outcome (path : String) (contents : ByteArray) :
    ∃ lines, (∀ lines', Text.Lined contents.data.toList lines' ↔ lines' = lines) ∧
      ((∃ t, ofFile path contents = .ok t) ↔ ∃ titles rows, Tabular lines titles rows) ∧
      (∀ t, ofFile path contents = .ok t ↔ ∃ titles rows start, Tabular lines titles rows ∧
        ofTitles titles = .ok start ∧ start.insertAll rows = .ok t) ∧
      ∀ fault, ofFile path contents = .error fault ↔
        lines = [] ∧ fault = .format path 1 "missing header" ∨
          ∃ before line after, lines = before ++ line :: after ∧
            (before = [] ∨ ∃ titles rows, Tabular before titles rows) ∧
            Spoils path before line fault := by
  refine ⟨Text.recordLines contents, fun lines' => ?_, ?_, fun t => ofFile_eq_ok_iff_tabular,
    fun fault => ofFile_eq_error_iff⟩
  · constructor
    · exact fun h => (Text.recordLines_of_lined h).symm
    · rintro rfl
      exact Text.lined_recordLines contents.data.toList
  · constructor
    · rintro ⟨t, h⟩
      obtain ⟨titles, rows, -, htable, -⟩ := ofFile_eq_ok_iff_tabular.mp h
      exact ⟨titles, rows, htable⟩
    · rintro ⟨titles, rows, htable⟩
      obtain ⟨start, t, hstart, hall⟩ := htable.insertAll
      exact ⟨t, ofFile_eq_ok_iff_tabular.mpr ⟨titles, rows, start, htable, hstart, hall⟩⟩

end Table

end TableShell
