import TableShell.Proofs.TrimmedText
import TableShell.Text.Lines

namespace TableShell.Text

def encode (s : String) : List UInt8 := s.toUTF8.data.toList

variable {c : Char} {byte : UInt8} {s : String}

theorem encode_eq_flatMap (s : String) : encode s = s.toList.flatMap String.utf8EncodeChar := by
  rw [encode, String.toUTF8_eq_toByteArray, ← String.ofList_toList (s := s),
    String.toByteArray_ofList]
  simp [List.utf8Encode]

theorem encode_append (s t : String) : encode (s ++ t) = encode s ++ encode t := by
  simp [encode_eq_flatMap]

theorem decode?_encode (s : String) : decode? (encode s) = some s := by
  simp only [decode?, encode, String.fromUTF8?, String.toUTF8_eq_toByteArray, Array.toArray_toList,
    dif_pos s.isValidUTF8]
  rfl

theorem toNat_eq_of_mem (h : byte ∈ String.utf8EncodeChar c) (hb : byte.toNat < 128) :
    c.toNat = byte.toNat := by
  have hc : c.val.toNat = c.toNat := rfl
  simp only [String.utf8EncodeChar] at h
  split at h
  · obtain rfl := List.mem_singleton.mp h
    simp only [UInt8.toNat_ofNat']
    omega
  · exfalso
    split at h
    · simp only [List.mem_cons, List.not_mem_nil, or_false] at h
      obtain rfl | rfl := h <;> simp only [UInt8.toNat_ofNat'] at hb <;> omega
    · split at h <;> simp only [List.mem_cons, List.not_mem_nil, or_false] at h
      · obtain rfl | rfl | rfl := h <;> simp only [UInt8.toNat_ofNat'] at hb <;> omega
      · obtain rfl | rfl | rfl | rfl := h <;> simp only [UInt8.toNat_ofNat'] at hb <;> omega

theorem eq_of_mem_utf8EncodeChar {d : Char} (h : byte ∈ String.utf8EncodeChar c)
    (hb : byte.toNat < 128) (hd : d.toNat = byte.toNat) : c = d :=
  Char.toNat_inj.mp ((toNat_eq_of_mem h hb).trans hd.symm)

theorem lineFeed_mem_of_encode (h : 10 ∈ encode s) : '\n' ∈ s.toList := by
  rw [encode_eq_flatMap, List.mem_flatMap] at h
  obtain ⟨c, hc, hb⟩ := h
  obtain rfl := eq_of_mem_utf8EncodeChar (d := '\n') hb (by decide) rfl
  exact hc

theorem return_last_encode_iff :
    (encode s).getLast? = some 13 ↔ s.toList.getLast? = some '\r' := by
  rw [encode_eq_flatMap]
  obtain hnil | ⟨before, c, hs⟩ := List.eq_nil_or_concat s.toList
  · simp [hnil]
  · have hne : String.utf8EncodeChar c ≠ [] := String.utf8EncodeChar_ne_nil
    obtain ⟨byte, hlast⟩ := Option.ne_none_iff_exists'.mp (mt List.getLast?_eq_none_iff.mp hne)
    rw [hs, List.concat_eq_append, List.flatMap_append, List.flatMap_singleton, List.getLast?_append,
      hlast, Option.some_or, List.getLast?_concat, Option.some_inj, Option.some_inj]
    constructor
    · rintro rfl
      exact eq_of_mem_utf8EncodeChar (List.mem_of_getLast? hlast) (by decide) rfl
    · rintro rfl
      have hreturn : String.utf8EncodeChar '\r' = [13] := by decide
      rw [hreturn] at hlast
      exact (Option.some_inj.mp hlast).symm

theorem dropReturn_eq_self_iff {line : List UInt8} :
    dropReturn line = line ↔ line.getLast? ≠ some 13 := by
  rw [dropReturn]
  split
  · rename_i hl
    have hlength : line.dropLast.length < line.length := by
      rw [List.length_dropLast]
      have hpos := List.length_pos_of_mem (List.mem_of_getLast? hl)
      omega
    simp only [hl, ne_eq, not_true_eq_false, iff_false]
    exact fun he => absurd (congrArg List.length he) (Nat.ne_of_lt hlength)
  · rename_i hl
    simp [hl]

theorem dropReturn_concat_return (line : List UInt8) : dropReturn (line ++ [13]) = line := by
  rw [dropReturn, List.getLast?_concat, if_pos rfl, List.dropLast_concat]

theorem encode_of_decode? {bytes : List UInt8} (h : decode? bytes = some s) : encode s = bytes := by
  rw [decode?, String.fromUTF8?] at h
  split at h <;> cases h
  rfl

theorem mem_encode_lineFeed (h : '\n' ∈ s.toList) : 10 ∈ encode s := by
  rw [encode_eq_flatMap, List.mem_flatMap]
  exact ⟨'\n', h, by decide⟩

theorem not_mem_of_mem_splitOn {α : Type} [BEq α] [LawfulBEq α] {a : α} {as piece : List α}
    (h : piece ∈ as.splitOn a) : a ∉ piece := by
  induction as generalizing piece with
  | nil =>
    rw [List.splitOn_nil, List.mem_singleton] at h
    simp [h]
  | cons first rest ih =>
    rw [List.splitOn_cons_eq_if_modifyHead] at h
    split at h
    · obtain rfl | h := List.mem_cons.mp h
      · exact List.not_mem_nil
      · exact ih h
    · rename_i hne
      cases hs : rest.splitOn a with
      | nil =>
        rw [hs] at h
        cases h
      | cons head later =>
        rw [hs] at h ih
        obtain rfl | h := List.mem_cons.mp h
        · have ha : a ≠ first := fun he => hne (by simp [he])
          simpa [ha] using ih List.mem_cons_self
        · exact ih (List.mem_cons_of_mem _ h)

theorem exists_of_mem_decodeLines {pieces : List (List UInt8)} (h : s ∈ decodeLines pieces) :
    ∃ piece ∈ pieces, decode? piece = some s := by
  induction pieces with
  | nil => cases h
  | cons piece rest ih =>
    rw [decodeLines] at h
    split at h
    · rename_i hd
      obtain rfl | h := List.mem_cons.mp h
      · exact ⟨piece, List.mem_cons_self, hd⟩
      · obtain ⟨other, ho, hs⟩ := ih h
        exact ⟨other, List.mem_cons_of_mem _ ho, hs⟩
    · cases h

theorem mem_pieces_of_mem_unended {bytes : ByteArray} {piece : List UInt8}
    (h : piece ∈ unended bytes) : piece ∈ pieces bytes := by
  rw [unended, Option.mem_toList, Option.filter_eq_some_iff] at h
  exact List.mem_of_getLast? h.1

theorem no_lineFeed_scriptLines (bytes : ByteArray) :
    ∀ line ∈ scriptLines bytes, '\n' ∉ line.toList := by
  intro line hl hm
  obtain ⟨decoded, hd, rfl⟩ := List.mem_map.mp hl
  have hdecoded : '\n' ∈ decoded.toList := by
    rw [dropReturns, String.toList_ofList] at hm
    exact (dropEndWhile_isPrefix _ _).subset hm
  obtain ⟨piece, hp, hs⟩ := exists_of_mem_decodeLines hd
  have hpiece : piece ∈ pieces bytes := by
    obtain hp | hp := List.mem_append.mp hp
    · exact List.dropLast_subset _ hp
    · exact mem_pieces_of_mem_unended hp
  apply not_mem_of_mem_splitOn hpiece
  rw [← encode_of_decode? hs]
  exact mem_encode_lineFeed hdecoded

end TableShell.Text
