import TableShell.Proofs.TableResults
import TableShell.Proofs.TextBytes

namespace TableShell

structure Plain (field : String) : Prop where
  no_comma : ',' ∉ field.toList
  no_lineFeed : '\n' ∉ field.toList
  no_return_last : field.toList.getLast? ≠ some '\r'

namespace Row

def text (row : Row) : String := ",".intercalate row

structure Delimited (row : Row) : Prop where
  ne_nil : row ≠ []
  no_comma : ∀ field ∈ row, ',' ∉ field.toList

/-- The row comes back from its line: no field of it is cut, and the line end is only its own. -/
structure Legible (row : Row) : Prop where
  no_comma : ∀ field ∈ row, ',' ∉ field.toList
  no_lineFeed : ∀ field ∈ row, '\n' ∉ field.toList
  no_return_last : ∀ last ∈ row.getLast?, last.toList.getLast? ≠ some '\r'

theorem legible_of_plain {row : Row} (h : ∀ field ∈ row, Plain field) : row.Legible where
  no_comma field hf := (h field hf).no_comma
  no_lineFeed field hf := (h field hf).no_lineFeed
  no_return_last last hl := (h last (List.mem_of_getLast? hl)).no_return_last

variable {row : Row} {path : String} {line : List UInt8}

theorem ofText_text (h : row.Delimited) : ofText row.text = row := by
  have hsplit : (row.text.toList.splitOn ',') = row.map String.toList := by
    rw [text, String.toList_intercalate]
    refine List.splitOn_intercalate ',' ?_ (by simpa using h.ne_nil)
    intro cs hc
    obtain ⟨field, hf, rfl⟩ := List.mem_map.mp hc
    exact h.no_comma field hf
  rw [ofText, hsplit, List.map_map]
  simp [Function.comp_def]

theorem text_ofText (s : String) : (ofText s).text = s := by
  apply String.toList_inj.mp
  rw [text, ofText, String.toList_intercalate, List.map_map]
  have hid : String.toList ∘ String.ofList = id := funext fun cs => String.toList_ofList
  rw [hid, List.map_id]
  exact List.intercalate_splitOn ','

theorem delimited_ofText (s : String) : (ofText s).Delimited where
  ne_nil := by
    rw [ofText, Ne, List.map_eq_nil_iff]
    exact List.splitOn_ne_nil ',' s.toList
  no_comma := by
    intro field hf
    obtain ⟨piece, hp, rfl⟩ := List.mem_map.mp hf
    rw [String.toList_ofList]
    exact Text.not_mem_of_mem_splitOn hp

theorem ofLine_eq_ok_iff :
    ofLine path line = .ok row ↔ row.Delimited ∧ line = Text.encode row.text := by
  constructor
  · intro h
    rw [ofLine] at h
    split at h <;> cases h
    rename_i s hs
    exact ⟨delimited_ofText s, by rw [text_ofText, Text.encode_of_decode? hs]⟩
  · rintro ⟨h, rfl⟩
    rw [ofLine, Text.decode?_encode]
    exact congrArg _ (ofText_text h)

theorem ofLine_rows_iff {lines : List (List UInt8)} {rows : List Row} :
    List.Forall₂ (fun line row => ofLine path line = .ok row) lines rows ↔
      (∀ row ∈ rows, row.Delimited) ∧ lines = rows.map fun row => Text.encode row.text := by
  induction rows generalizing lines with
  | nil => simp
  | cons row rest ih =>
    rw [List.forall₂_cons_right_iff]
    constructor
    · rintro ⟨line, later, hrow, hrest, rfl⟩
      obtain ⟨hd, rfl⟩ := ofLine_eq_ok_iff.mp hrow
      obtain ⟨hall, rfl⟩ := ih.mp hrest
      exact ⟨List.forall_mem_cons.mpr ⟨hd, hall⟩, rfl⟩
    · rintro ⟨hall, rfl⟩
      obtain ⟨hd, hrest⟩ := List.forall_mem_cons.mp hall
      exact ⟨_, _, ofLine_eq_ok_iff.mpr ⟨hd, rfl⟩, ih.mpr ⟨hrest, rfl⟩, rfl⟩

/-- A row whose line is taken for one with a line end of its own does not come back. -/
theorem ofLine_dropReturn_iff (h : row.Delimited) :
    ofLine path (Text.dropReturn (Text.encode row.text)) = .ok row ↔
      (Text.encode row.text).getLast? ≠ some 13 := by
  rw [ofLine_eq_ok_iff, Text.dropReturn_eq_self_iff]
  simp [h]

theorem text_cons_cons (field other : String) (later : Row) :
    text (field :: other :: later) = field ++ "," ++ text (other :: later) := by
  rw [text, String.intercalate_cons_cons]
  rfl

theorem mem_text_iff {c : Char} (hc : c ≠ ',') :
    c ∈ row.text.toList ↔ ∃ field ∈ row, c ∈ field.toList := by
  induction row with
  | nil => simp [text]
  | cons field rest ih =>
    cases rest with
    | nil => simp [text]
    | cons other later =>
      rw [text_cons_cons, String.toList_append, String.toList_append, List.mem_append,
        List.mem_append, ih, List.exists_mem_cons_iff]
      simp [hc]

theorem return_last_text_iff :
    row.text.toList.getLast? = some '\r' ↔
      ∃ field, row.getLast? = some field ∧ field.toList.getLast? = some '\r' := by
  induction row with
  | nil => simp [text]
  | cons field rest ih =>
    cases rest with
    | nil => simp [text]
    | cons other later =>
      rw [text_cons_cons, String.toList_append, List.getLast?_append, List.getLast?_cons_cons, ← ih]
      cases (text (other :: later)).toList.getLast? with
      | none => simp
      | some c => simp

end Row

namespace Text

theorem pieces_of_lines {lines : List String} (h : ∀ line ∈ lines, '\n' ∉ line.toList) :
    pieces (String.join (lines.map (· ++ "\n"))).toUTF8 = lines.map encode ++ [[]] := by
  change (encode (String.join (lines.map (· ++ "\n")))).splitOn 10 = _
  induction lines with
  | nil => rfl
  | cons line rest ih =>
    obtain ⟨hline, hrest⟩ := List.forall_mem_cons.mp h
    have hfeed : encode "\n" = [10] := by decide
    rw [List.map_cons, String.join_cons, encode_append, encode_append, hfeed, List.append_assoc,
      List.singleton_append,
      List.splitOn_append_cons_self_of_not_mem (mt lineFeed_mem_of_encode hline), ih hrest]
    rfl

/-- Lines come back from their text, but a carriage return at their end does not. -/
theorem recordLines_of_lines {lines : List String} (h : ∀ line ∈ lines, '\n' ∉ line.toList) :
    recordLines (String.join (lines.map (· ++ "\n"))).toUTF8 =
      lines.map fun line => dropReturn (encode line) := by
  rw [recordLines, unended, pieces_of_lines h]
  simp [Option.filter, Function.comp_def]

theorem decodeLines_map_encode (lines : List String) :
    decodeLines (lines.map encode) = lines := by
  induction lines with
  | nil => rfl
  | cons line rest ih => rw [List.map_cons, decodeLines, decode?_encode, ih]

theorem scriptLines_of_lines {lines : List String} (h : ∀ line ∈ lines, '\n' ∉ line.toList) :
    scriptLines (String.join (lines.map (· ++ "\n"))).toUTF8 = lines.map dropReturns := by
  rw [scriptLines, unended, pieces_of_lines h]
  simp [Option.filter, decodeLines_map_encode]

end Text

namespace Table

structure Storable (t : Table) : Prop where
  valid : t.Valid
  titles_plain : ∀ title ∈ t.titles, Plain title
  cells_plain : ∀ row ∈ t.rows, ∀ cell ∈ row, Plain cell

abbrev records (t : Table) : List Row := t.titles :: t.rows

variable {t : Table}

theorem recordLines_fileText (h : ∀ row ∈ t.records, '\n' ∉ row.text.toList) :
    Text.recordLines t.fileText.toUTF8 =
      t.records.map fun row => Text.dropReturn (Text.encode row.text) := by
  have hlines : (t.records.map Row.text).map (· ++ "\n") =
      t.records.map Row.line := by
    rw [List.map_map]
    rfl
  rw [fileText, ← hlines, Text.recordLines_of_lines, List.map_map]
  · rfl
  · intro line hl
    obtain ⟨row, hr, rfl⟩ := List.mem_map.mp hl
    exact h row hr

theorem Valid.insertAll_rows (h : t.Valid) :
    (⟨t.titles, [], []⟩ : Table).insertAll t.rows = .ok t := by
  have hstart := ofTitles_of_nodup h.titles_ne_nil h.titles_nodup
  obtain ⟨t', ht, hv, htitles, hrows⟩ := (valid_ofTitles hstart).insertAll_eq_ok h.width_eq
  rw [List.nil_append, eraseDups_of_nodup h.rows_nodup] at hrows
  rw [ht, hv.eq_of_rows h htitles hrows]

/-- What is stored is loaded exactly when no line of it ends with a carriage return, which would be
taken for part of the line end. -/
theorem Valid.ofFile_fileText_iff (h : t.Valid) (hd : ∀ row ∈ t.records, row.Delimited)
    (hf : ∀ row ∈ t.records, '\n' ∉ row.text.toList) (path : String) :
    ofFile path t.fileText.toUTF8 = .ok t ↔
      ∀ row ∈ t.records, (Text.encode row.text).getLast? ≠ some 13 := by
  rw [ofFile_eq_ok_iff, recordLines_fileText hf]
  constructor
  · rintro ⟨titles, rows, start, hread, hstart, hall⟩
    have hsame : titles :: rows = t.records := by
      obtain ⟨htitles, hrows⟩ := (valid_ofTitles hstart).rows_of_insertAll hall
      obtain ⟨hstitles, hsrows⟩ := titles_of_ofTitles hstart
      have hlength : t.rows.length = rows.length := by simpa using hread.length_eq
      rw [hsrows, List.nil_append] at hrows
      rw [hrows] at hlength
      rw [records, htitles, hstitles, hrows, (eraseDups_sublist rows).eq_of_length hlength]
    rw [hsame, List.forall₂_map_left_iff, List.forall₂_same] at hread
    exact fun row hr => (Row.ofLine_dropReturn_iff (hd row hr)).mp (hread row hr)
  · intro hr
    refine ⟨t.titles, t.rows, ⟨t.titles, [], []⟩, ?_, ?_, h.insertAll_rows⟩
    · rw [List.forall₂_map_left_iff, List.forall₂_same]
      exact fun row hm => (Row.ofLine_dropReturn_iff (hd row hm)).mpr (hr row hm)
    · exact ofTitles_of_nodup h.titles_ne_nil h.titles_nodup

theorem Valid.ofFile_fileText_of_legible (h : t.Valid) (hl : ∀ row ∈ t.records, row.Legible)
    (path : String) : ofFile path t.fileText.toUTF8 = .ok t := by
  refine (h.ofFile_fileText_iff ?_ ?_ path).mpr ?_
  · exact fun row hr => ⟨h.row_ne_nil row hr, (hl row hr).no_comma⟩
  · intro row hr hm
    obtain ⟨field, hf, hfeed⟩ := (Row.mem_text_iff (by decide)).mp hm
    exact (hl row hr).no_lineFeed field hf hfeed
  · intro row hr hreturn
    rw [Text.return_last_encode_iff, Row.return_last_text_iff] at hreturn
    obtain ⟨field, hlast, hreturn⟩ := hreturn
    exact (hl row hr).no_return_last field hlast hreturn

theorem ofFile_fileText (h : t.Storable) (path : String) :
    ofFile path t.fileText.toUTF8 = .ok t :=
  have hplain : ∀ row ∈ t.records, ∀ field ∈ row, Plain field :=
    List.forall_mem_cons.mpr ⟨h.titles_plain, h.cells_plain⟩
  h.valid.ofFile_fileText_of_legible (fun row hr => Row.legible_of_plain (hplain row hr)) path

end Table

end TableShell
