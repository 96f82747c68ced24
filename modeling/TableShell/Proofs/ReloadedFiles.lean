import TableShell.Proofs.FileText

namespace TableShell

namespace Text

theorem dropReturn_subset (line : List UInt8) : dropReturn line ⊆ line := by
  rw [dropReturn]
  split
  · exact List.dropLast_subset line
  · exact List.Subset.refl line

theorem no_lineFeed_recordLines (bytes : ByteArray) : ∀ line ∈ recordLines bytes, 10 ∉ line := by
  intro line hl hm
  obtain hl | hl := List.mem_append.mp hl
  · obtain ⟨piece, hp, rfl⟩ := List.mem_map.mp hl
    exact not_mem_of_mem_splitOn (List.dropLast_subset _ hp) (dropReturn_subset piece hm)
  · exact not_mem_of_mem_splitOn (mem_pieces_of_mem_unended hl) hm

end Text

namespace Table

variable {t : Table} {path : String} {contents : ByteArray}

theorem lines_of_ofFile (h : ofFile path contents = .ok t) :
    (∀ row ∈ t.records, row.Delimited) ∧
      ∀ line, line ∈ Text.recordLines contents ↔
        ∃ row ∈ t.records, Text.encode row.text = line := by
  obtain ⟨titles, rows, start, hread, hstart, hall⟩ := ofFile_eq_ok_iff.mp h
  obtain ⟨htitles, hrows⟩ := (valid_ofTitles hstart).rows_of_insertAll hall
  obtain ⟨hstitles, hsrows⟩ := titles_of_ofTitles hstart
  -- a row that stands twice in the file is still there
  have hsame : ∀ row, row ∈ t.records ↔ row ∈ titles :: rows := by
    intro row
    rw [hsrows, List.nil_append] at hrows
    rw [records, htitles, hstitles, hrows, List.mem_cons, List.mem_cons, List.mem_eraseDups]
  obtain ⟨hd, hlines⟩ := Row.ofLine_rows_iff.mp hread
  refine ⟨fun row hr => hd row ((hsame row).mp hr), fun line => ?_⟩
  simp only [hlines, hsame, List.mem_map]

/-- A file that can be read gives the same table after it has been stored, exactly when none of its
lines ends with a carriage return that the reader has not taken away. -/
theorem reloaded_iff (h : ofFile path contents = .ok t) (other : String) :
    ofFile other t.fileText.toUTF8 = .ok t ↔
      ∀ line ∈ Text.recordLines contents, line.getLast? ≠ some 13 := by
  obtain ⟨hd, hlines⟩ := lines_of_ofFile h
  have hf : ∀ row ∈ t.records, '\n' ∉ row.text.toList := by
    intro row hr hm
    have hl := (hlines (Text.encode row.text)).mpr ⟨row, hr, rfl⟩
    exact Text.no_lineFeed_recordLines contents _ hl (Text.mem_encode_lineFeed hm)
  rw [(valid_ofFile h).ofFile_fileText_iff hd hf]
  constructor
  · intro hr line hl
    obtain ⟨row, hm, rfl⟩ := (hlines line).mp hl
    exact hr row hm
  · exact fun hl row hr => hl _ ((hlines _).mpr ⟨row, hr, rfl⟩)

/-- Line ends of both kinds, a row that stands twice, a carriage return inside a line, an empty cell
and no line end after the last row. -/
theorem reloaded_of_mixed_line_ends :
    let contents := "k,v\r\nx\r,1\r\nx\r,1\n,é".toUTF8
    let t : Table := ⟨["k", "v"], [["x\r", "1"], ["", "é"]], [1, 0]⟩
    ofFile "t.db" contents = .ok t ∧ ofFile "t.db" t.fileText.toUTF8 = .ok t := by
  intro contents t
  have h : ofFile "t.db" contents = .ok t := by rfl
  exact ⟨h, (reloaded_iff h "t.db").mpr (by decide)⟩

/-- A carriage return at the very end of a file is part of the last row, and is lost with it once
the row has a line end. -/
theorem not_reloaded_of_return_at_end :
    ofFile "t.db" "k\nx\nx\r".toUTF8 = .ok ⟨["k"], [["x"], ["x\r"]], [0, 1]⟩ ∧
      ofFile "t.db" (⟨["k"], [["x"], ["x\r"]], [0, 1]⟩ : Table).fileText.toUTF8 =
        .ok ⟨["k"], [["x"]], [0]⟩ := by
  constructor <;> rfl

end Table

end TableShell
