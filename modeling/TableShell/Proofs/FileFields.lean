import TableShell.Proofs.OfferedRows
import TableShell.Proofs.ReloadedFiles

namespace TableShell.Table

variable {t start : Table} {titles : List String} {path : String} {contents : ByteArray}

theorem no_lineFeed_of_ofFile (h : ofFile path contents = .ok t) :
    ∀ row ∈ t.records, '\n' ∉ row.text.toList := by
  intro row hr hm
  have hl := ((lines_of_ofFile h).2 (Text.encode row.text)).mpr ⟨row, hr, rfl⟩
  exact Text.no_lineFeed_recordLines contents _ hl (Text.mem_encode_lineFeed hm)

theorem Valid.ofFile_fileText_iff_legible (h : t.Valid) (path : String) :
    ofFile path t.fileText.toUTF8 = .ok t ↔ ∀ row ∈ t.records, row.Legible := by
  constructor
  · intro hread
    have hd := (lines_of_ofFile hread).1
    have hf := no_lineFeed_of_ofFile hread
    have hr := (h.ofFile_fileText_iff hd hf path).mp hread
    intro row hm
    refine ⟨(hd row hm).no_comma, fun field hfield hc => ?_, fun field hlast hreturn => ?_⟩
    · exact hf row hm ((Row.mem_text_iff (by decide)).mpr ⟨field, hfield, hc⟩)
    · apply hr row hm
      rw [Text.return_last_encode_iff, Row.return_last_text_iff]
      exact ⟨field, hlast, hreturn⟩
  · exact fun hl => h.ofFile_fileText_of_legible hl path

/-- A table that is made by offering rows to a new one, whatever texts they hold, is read back from
what is written of it, with its titles, rows and index, exactly when no title and no cell holds a
comma or a line feed, and neither the last title nor the last cell of a row ends with a carriage
return. -/
theorem reread_iff (h : ofTitles titles = .ok start) (offered : List Row) (path : String) :
    let t := (start.offerAll offered).2
    ofFile path t.fileText.toUTF8 = .ok t ↔
      (∀ row ∈ t.titles :: t.rows, ∀ field ∈ row, ',' ∉ field.toList ∧ '\n' ∉ field.toList) ∧
      ∀ row ∈ t.titles :: t.rows, ∀ last ∈ row.getLast?, last.toList.getLast? ≠ some '\r' := by
  intro t
  rw [((valid_ofTitles h).offerAll offered).1.ofFile_fileText_iff_legible]
  constructor
  · intro hl
    exact ⟨fun row hr field hf => ⟨(hl row hr).no_comma field hf, (hl row hr).no_lineFeed field hf⟩,
      fun row hr => (hl row hr).no_return_last⟩
  · rintro ⟨hfields, hlast⟩ row hr
    exact ⟨fun field hf => (hfields row hr field hf).1, fun field hf => (hfields row hr field hf).2,
      hlast row hr⟩

/-- A carriage return is part of its field unless the line ends there. -/
theorem reread_of_return_in_row :
    let start : Table := ⟨["k", "v"], [], []⟩
    let kept := (start.offerAll [["x\r", "1"], ["x"], ["", "é"], ["x\r", "1"]]).2
    let lost := (start.offerAll [["x", "1\r"], ["x", "1"]]).2
    ofTitles ["k", "v"] = .ok start ∧ ofFile "t.db" kept.fileText.toUTF8 = .ok kept ∧
      ofFile "t.db" lost.fileText.toUTF8 ≠ .ok lost := by
  intro start kept lost
  have h : ofTitles ["k", "v"] = .ok start := rfl
  refine ⟨h, (reread_iff h _ "t.db").mpr (by decide), fun hread => ?_⟩
  exact absurd ((reread_iff h _ "t.db").mp hread).2 (by decide)

end TableShell.Table
