import TableShell.Proofs.TextBytes
import TableShell.Token.Source

namespace TableShell

namespace Text

theorem splitOn_append_of_not_mem {α : Type} [BEq α] [LawfulBEq α] {a : α} {as bs : List α}
    (h : a ∉ as) : (as ++ bs).splitOn a = (bs.splitOn a).modifyHead (as ++ ·) := by
  induction as with
  | nil => cases hs : bs.splitOn a <;> simp [hs]
  | cons first rest ih =>
    obtain ⟨hfirst, hrest⟩ := List.ne_and_not_mem_of_not_mem_cons h
    have hne : (first == a) = false := by simpa using Ne.symm hfirst
    rw [List.cons_append, List.splitOn_cons_eq_if_modifyHead, hne, if_neg (by simp), ih hrest]
    cases bs.splitOn a <;> simp

theorem exists_splitOn_eq_cons {α : Type} [BEq α] (a : α) (as : List α) :
    ∃ first rest, as.splitOn a = first :: rest :=
  List.exists_cons_of_ne_nil (List.splitOnP_ne_nil _ as)

theorem flatten_splitOn_sublist {α : Type} [BEq α] [LawfulBEq α] (a : α) (as : List α) :
    (as.splitOn a).flatten.Sublist as := by
  induction as with
  | nil => exact .slnil
  | cons first rest ih =>
    obtain ⟨head, later, hs⟩ := exists_splitOn_eq_cons a rest
    rw [hs, List.flatten_cons] at ih
    rw [List.splitOn_cons_eq_if_modifyHead, hs]
    split
    · exact ih.cons first
    · exact ih.cons_cons first

theorem splitOn_append_cons {α : Type} [BEq α] [LawfulBEq α] (a : α) (as bs : List α) :
    (as ++ a :: bs).splitOn a = as.splitOn a ++ bs.splitOn a := by
  induction as with
  | nil => simp [List.splitOn_cons_eq_if_modifyHead]
  | cons first rest ih =>
    obtain ⟨head, later, hs⟩ := exists_splitOn_eq_cons a rest
    rw [List.cons_append, List.splitOn_cons_eq_if_modifyHead, ih,
      List.splitOn_cons_eq_if_modifyHead, hs]
    split <;> simp

theorem length_splitOn {α : Type} [BEq α] [LawfulBEq α] (a : α) (as : List α) :
    (as.splitOn a).length = as.count a + 1 := by
  induction as with
  | nil => simp
  | cons first rest ih =>
    rw [List.splitOn_cons_eq_if_modifyHead, List.count_cons, ← Nat.add_right_comm, ← ih]
    split <;> simp

theorem toList_dropReturns (line : List Char) :
    (dropReturns (String.ofList line)).toList = dropEndWhile (· == '\r') line := by
  simp [dropReturns]

theorem splitOn_encode (cs : List Char) :
    (encode (String.ofList cs)).splitOn 10 =
      (cs.splitOn '\n').map fun line => encode (String.ofList line) := by
  simp only [encode_eq_flatMap, String.toList_ofList]
  induction cs with
  | nil => rfl
  | cons c cs ih =>
    by_cases hc : c = '\n'
    · have hbytes : String.utf8EncodeChar '\n' = [10] := by decide
      rw [hc, List.flatMap_cons, hbytes, List.singleton_append,
        List.splitOn_cons_eq_if_modifyHead, List.splitOn_cons_eq_if_modifyHead, ih]
      simp
    · have hbytes : 10 ∉ String.utf8EncodeChar c := fun hm =>
        hc (eq_of_mem_utf8EncodeChar hm (by decide) rfl)
      obtain ⟨first, rest, hs⟩ := exists_splitOn_eq_cons '\n' cs
      rw [List.flatMap_cons, splitOn_append_of_not_mem hbytes, ih,
        List.splitOn_cons_eq_if_modifyHead, hs]
      simp [hc]

theorem decodeLines_encode (lines : List (List Char)) :
    decodeLines (lines.map fun line => encode (String.ofList line)) =
      lines.map String.ofList := by
  induction lines with
  | nil => rfl
  | cons line rest ih => simp [decodeLines, decode?_encode, ih]

theorem isEmpty_encode (line : List Char) :
    (encode (String.ofList line)).isEmpty = line.isEmpty := by
  rw [encode_eq_flatMap, String.toList_ofList]
  cases line with
  | nil => rfl
  | cons c rest =>
    have hne : String.utf8EncodeChar c ≠ [] := String.utf8EncodeChar_ne_nil
    simp [hne]

/-- The lines of a text are its pieces, but the last piece is no line if it is empty. -/
theorem scriptLines_toUTF8 {cs last : List Char} {lines : List (List Char)}
    (h : cs.splitOn '\n' = lines ++ [last]) :
    scriptLines (String.ofList cs).toUTF8 =
      (lines ++ if last = [] then [] else [last]).map fun line =>
        dropReturns (String.ofList line) := by
  have hpieces : pieces (String.ofList cs).toUTF8 =
      (lines ++ [last]).map fun line => encode (String.ofList line) := by
    rw [← h, ← splitOn_encode]
    rfl
  have hunended : unended (String.ofList cs).toUTF8 =
      (if last = [] then [] else [last]).map fun line => encode (String.ofList line) := by
    rw [unended, hpieces, List.map_append, List.map_singleton, List.getLast?_concat, Option.filter,
      isEmpty_encode]
    cases last <;> rfl
  rw [scriptLines, hpieces, hunended, List.map_append, List.map_singleton, List.dropLast_concat,
    ← List.map_append, decodeLines_encode, List.map_map]
  rfl

end Text

namespace Source

def eventsOf (number : Nat) (inComment : Bool) (text : List Char) : List Event :=
  eventsFrom number inComment
    ((text.splitOn '\n').map fun line => Text.dropReturns (String.ofList line))

variable {number : Nat} {inComment inComment' : Bool} {text later : List Char}

theorem eventsOf_cons {first : List Char} {rest : List (List Char)}
    (h : text.splitOn '\n' = first :: rest) :
    eventsOf number inComment text =
      let found := Scan.line inComment (Text.dropEndWhile (· == '\r') first)
      found.1.map (Lexeme.at (number + 1)) ++
        eventsFrom (number + 1) found.2
          (rest.map fun line => Text.dropReturns (String.ofList line)) := by
  rw [eventsOf, h, List.map_cons, eventsFrom, Text.toList_dropReturns]

theorem eventsOf_nil (number : Nat) : eventsOf number false [] = [] := by
  simp [eventsOf, eventsFrom, Text.dropReturns, Text.dropEndWhile, Scan.line, Scan.text_nil]

theorem eventsOf_lineFeed (number : Nat) (inComment : Bool) (text : List Char) :
    eventsOf number inComment ('\n' :: text) = eventsOf (number + 1) inComment text := by
  have hs : ('\n' :: text).splitOn '\n' = [] :: text.splitOn '\n' := by
    simp [List.splitOn_cons_eq_if_modifyHead]
  rw [eventsOf_cons hs]
  cases inComment <;>
    simp [Text.dropEndWhile, Scan.line, Scan.text_nil, Scan.afterComment?, eventsOf]

theorem first_isPrefix {first : List Char} {rest : List (List Char)}
    (h : text.splitOn '\n' = first :: rest) : first <+: text := by
  have hjoined : ['\n'].intercalate (text.splitOn '\n') = text := List.intercalate_splitOn '\n'
  rw [← hjoined, h]
  cases rest <;> simp [List.intercalate]

/-- What is scanned off the start of every line is scanned off the start of a text. -/
theorem eventsOf_append {found : List Lexeme} (hline : '\n' ∉ text)
    (hlast : text.getLast? ≠ some '\r')
    (h : ∀ line, line <+: later → Scan.line inComment (text ++ line) =
      (found ++ (Scan.line inComment' line).1, (Scan.line inComment' line).2)) :
    eventsOf number inComment (text ++ later) =
      found.map (Lexeme.at (number + 1)) ++ eventsOf number inComment' later := by
  obtain ⟨first, rest, hs⟩ := Text.exists_splitOn_eq_cons '\n' later
  have hall : (text ++ later).splitOn '\n' = (text ++ first) :: rest := by
    rw [Text.splitOn_append_of_not_mem hline, hs, List.modifyHead_cons]
  have hdrop : Text.dropEndWhile (· == '\r') (text ++ first) =
      text ++ Text.dropEndWhile (· == '\r') first := by
    refine Text.dropEndWhile_append (fun c hc => ?_) first
    simpa [hc] using hlast
  have hprefix := (Text.dropEndWhile_isPrefix (· == '\r') first).trans (first_isPrefix hs)
  rw [eventsOf_cons hall, eventsOf_cons hs, hdrop, h _ hprefix]
  simp

theorem eventsOf_mark (hline : '\n' ∉ text) (hlast : text.getLast? ≠ some '\r')
    (h : ∀ line, line <+: later → Scan.line inComment (text ++ line) = Scan.line inComment' line) :
    eventsOf number inComment (text ++ later) = eventsOf number inComment' later := by
  have happend : eventsOf number inComment (text ++ later) =
      [].map (Lexeme.at (number + 1)) ++ eventsOf number inComment' later :=
    eventsOf_append hline hlast h
  exact happend

/-- A character that is passed at the start of every line is passed at the start of a text, a
carriage return at the end of its line among them. -/
theorem eventsOf_pass {c : Char} (hc : c ≠ '\n')
    (h : ∀ line, line <+: later → Scan.line inComment (c :: line) = Scan.line inComment line) :
    eventsOf number inComment (c :: later) = eventsOf number inComment later := by
  obtain ⟨first, rest, hs⟩ := Text.exists_splitOn_eq_cons '\n' later
  have hall : (c :: later).splitOn '\n' = (c :: first) :: rest := by
    simp [List.splitOn_cons_eq_if_modifyHead, hs, hc]
  rw [eventsOf_cons hall, eventsOf_cons hs]
  obtain ⟨hnil, hnil'⟩ | hcons := Text.dropEndWhile_cons (· == '\r') c first
  · rw [hnil, hnil']
  · rw [hcons, h _ ((Text.dropEndWhile_isPrefix _ first).trans (first_isPrefix hs))]

theorem eventsFrom_concat_empty {lines : List String}
    (h : ∀ fault, .error fault ∉ eventsFrom number inComment (lines ++ [""])) :
    eventsFrom number inComment (lines ++ [""]) = eventsFrom number inComment lines := by
  induction lines generalizing number inComment with
  | nil =>
    cases inComment with
    | false => simp [eventsFrom, Scan.line, Scan.text_nil]
    | true => simp [eventsFrom, Scan.line, Scan.afterComment?, Lexeme.at] at h
  | cons line rest ih =>
    rw [List.cons_append, eventsFrom] at h ⊢
    rw [eventsFrom, ih fun fault hm => h fault (List.mem_append_right _ hm)]

theorem eventsFrom_scriptLines (h : ∀ fault, .error fault ∉ eventsOf 0 false text) :
    eventsFrom 0 false (Text.scriptLines (String.ofList text).toUTF8) = eventsOf 0 false text := by
  have hne : text.splitOn '\n' ≠ [] := List.splitOnP_ne_nil _ text
  obtain ⟨lines, last, hs⟩ := (List.eq_nil_or_concat _).resolve_left hne
  rw [List.concat_eq_append] at hs
  rw [Text.scriptLines_toUTF8 hs]
  rw [eventsOf, hs] at h ⊢
  split <;> rename_i hlast
  · rw [hlast, List.map_append, List.map_singleton] at h
    rw [hlast, List.append_nil, List.map_append, List.map_singleton]
    exact (eventsFrom_concat_empty h).symm
  · rfl

end Source

end TableShell
