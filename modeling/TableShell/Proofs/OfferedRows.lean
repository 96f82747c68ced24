import TableShell.Proofs.SameRows
import TableShell.Proofs.TextOrder

namespace TableShell.Table

/-- Inserts a row, and tells whether it was added. A row that is refused changes nothing. -/
def offer (t : Table) (row : Row) : Except Fault Bool × Table :=
  match t.insert row with
  | .ok (added, t') => (.ok added, t')
  | .error fault => (.error fault, t)

def offerAll (t : Table) : List Row → List (Except Fault Bool) × Table
  | [] => ([], t)
  | row :: rest =>
    let offered := t.offer row
    let later := offered.2.offerAll rest
    (offered.1 :: later.1, later.2)

def AddedBefore (t : Table) (rows : List Row) (k : Nat) (row : Row) : Prop :=
  ∃ j < k, rows[j]? = some row ∧ (t.offerAll rows).1[j]? = some (.ok true)

variable {t t' start : Table} {row other : Row} {rows : List Row} {titles : List String}

theorem offer_of_width_ne (h : row.length ≠ t.width) :
    t.offer row = (.error (.arity t.width row.length), t) := by
  rw [offer, insert_eq_error_iff.mpr ⟨h, rfl⟩]

theorem offer_of_insert {added : Bool} (h : t.insert row = .ok (added, t')) :
    t.offer row = (.ok added, t') := by
  rw [offer, h]

theorem mem_rows_offer :
    other ∈ (t.offer row).2.rows ↔ other ∈ t.rows ∨ other = row ∧ (t.offer row).1 = .ok true := by
  by_cases hw : row.length = t.width
  · obtain ⟨added, t', hi⟩ := exists_insert_of_width hw
    rw [offer_of_insert hi]
    obtain ⟨-, ⟨-, rfl, rfl⟩ | ⟨rank, -, rfl, rfl⟩⟩ := insert_eq_ok hi <;> simp
  · simp [offer_of_width_ne hw]

theorem Valid.answer_offer (h : t.Valid) (row : Row) :
    (t.offer row).1 =
      if row.length = t.width then .ok (decide (row ∉ t.rows))
      else .error (.arity t.width row.length) := by
  split <;> rename_i hw
  · obtain ⟨added, t', hi⟩ := exists_insert_of_width hw
    rw [offer_of_insert hi]
    obtain ⟨-, ⟨hr, rfl, -⟩ | ⟨rank, hr, rfl, -⟩⟩ := insert_eq_ok hi
    · simp [h.rank?_eq_none_iff.mp hr]
    · have hn : row ∉ t.rows := by
        rw [← h.rank?_eq_none_iff, hr]
        exact Option.some_ne_none rank
      simp [hn]
  · rw [offer_of_width_ne hw]

/-- The rows that are refused might as well not be offered. -/
theorem insertAll_eq_offerAll (t : Table) (rows : List Row) :
    t.insertAll (rows.filter fun row => row.length = t.width) = .ok (t.offerAll rows).2 := by
  induction rows generalizing t with
  | nil => rfl
  | cons row rest ih =>
    by_cases hw : row.length = t.width
    · obtain ⟨added, t', hi⟩ := exists_insert_of_width hw
      rw [List.filter_cons_of_pos (by simpa using hw), insertAll, List.foldlM_cons, hi,
        ← width_of_insert hi, offerAll, offer_of_insert hi]
      exact ih t'
    · rw [List.filter_cons_of_neg (by simpa using hw), ih, offerAll, offer_of_width_ne hw]

theorem offerAll_append (t : Table) (rows later : List Row) :
    t.offerAll (rows ++ later) =
      ((t.offerAll rows).1 ++ ((t.offerAll rows).2.offerAll later).1,
        ((t.offerAll rows).2.offerAll later).2) := by
  induction rows generalizing t with
  | nil => rfl
  | cons row rest ih => rw [List.cons_append, offerAll, ih, offerAll, List.cons_append]

theorem length_answers (t : Table) (rows : List Row) : (t.offerAll rows).1.length = rows.length := by
  induction rows generalizing t with
  | nil => rfl
  | cons row rest ih => rw [offerAll, List.length_cons, List.length_cons, ih]

section Steps

variable {k : Nat} (h : rows[k]? = some row)

include h

theorem answer_offerAll (t : Table) :
    (t.offerAll rows).1[k]? = some ((t.offerAll (rows.take k)).2.offer row).1 := by
  obtain ⟨hk, rfl⟩ := List.getElem?_eq_some_iff.mp h
  have hlength : (t.offerAll (rows.take k)).1.length = k := by
    rw [length_answers, List.length_take, Nat.min_eq_left (Nat.le_of_lt hk)]
  conv_lhs => rw [← List.take_append_drop k rows, List.drop_eq_getElem_cons hk, offerAll_append]
  rw [List.getElem?_append_right (Nat.le_of_eq hlength), hlength, Nat.sub_self, offerAll]
  rfl

theorem offerAll_take_succ (t : Table) :
    (t.offerAll (rows.take (k + 1))).2 = ((t.offerAll (rows.take k)).2.offer row).2 := by
  rw [List.take_add_one, h, Option.toList_some, offerAll_append]
  rfl

end Steps

theorem mem_rows_offerAll_take (hs : start.rows = []) (rows : List Row) (k : Nat) :
    row ∈ (start.offerAll (rows.take k)).2.rows ↔ start.AddedBefore rows k row := by
  induction k with
  | zero => simp [AddedBefore, offerAll, hs]
  | succ k ih =>
    have hsucc : start.AddedBefore rows (k + 1) row ↔ start.AddedBefore rows k row ∨
        rows[k]? = some row ∧ (start.offerAll rows).1[k]? = some (.ok true) := by
      simp only [AddedBefore, Nat.lt_succ_iff_lt_or_eq, or_and_right, exists_or, exists_eq_left]
    rw [hsucc, ← ih]
    cases hk : rows[k]? with
    | none => simp [List.take_add_one, hk]
    | some next =>
      rw [offerAll_take_succ hk, mem_rows_offer, answer_offerAll hk]
      simp [eq_comm]

namespace Valid

theorem offerAll (h : t.Valid) (rows : List Row) :
    (t.offerAll rows).2.Valid ∧ (t.offerAll rows).2.titles = t.titles ∧
      (t.offerAll rows).2.rows =
        (t.rows ++ rows.filter fun row => row.length = t.width).eraseDups :=
  ⟨h.insertAll (insertAll_eq_offerAll t rows), h.rows_of_insertAll (insertAll_eq_offerAll t rows)⟩

theorem alike_offerAll (h : t.Valid) {rows' : List Row} (hrows : ∀ row, row ∈ rows' ↔ row ∈ rows) :
    (t.offerAll rows').2.Alike (t.offerAll rows).2 := by
  obtain ⟨hv, htitles, ht⟩ := h.offerAll rows
  obtain ⟨hv', htitles', ht'⟩ := h.offerAll rows'
  refine ⟨hv', hv, htitles'.trans htitles.symm, fun row => ?_⟩
  simp only [ht, ht', List.mem_eraseDups, List.mem_append, List.mem_filter, hrows]

end Valid

theorem answer_iff (h : ofTitles titles = .ok start) {k : Nat} (hk : rows[k]? = some row) :
    ((start.offerAll rows).1[k]? = some (.error (.arity titles.length row.length)) ↔
      row.length ≠ titles.length) ∧
    ((start.offerAll rows).1[k]? = some (.ok true) ↔
      row.length = titles.length ∧ ¬start.AddedBefore rows k row) ∧
    ((start.offerAll rows).1[k]? = some (.ok false) ↔
      row.length = titles.length ∧ start.AddedBefore rows k row) := by
  obtain ⟨hstitles, hsrows⟩ := titles_of_ofTitles h
  obtain ⟨hv, htitles, -⟩ := (valid_ofTitles h).offerAll (rows.take k)
  have hanswer := hv.answer_offer row
  rw [width, htitles, hstitles] at hanswer
  rw [answer_offerAll hk, hanswer, ← mem_rows_offerAll_take hsrows]
  by_cases hw : row.length = titles.length <;>
    by_cases hm : row ∈ (start.offerAll (rows.take k)).2.rows <;> simp [hw, hm]

/-- Rows offered to a new table. Each is refused for its width alone, and then nothing has changed;
otherwise it is added, unless it has been added before. In the end the rows of the table are those
that have a cell for each title, each where it first occurs, and the index is the one order of the
positions that sorts them, by the code points of their cells. So the order and the repetitions of
the rows that are offered do not show when they are listed, and the index shows nothing but the
rows. -/
theorem offered_rows (h : ofTitles titles = .ok start) (rows : List Row) :
    let answers := (start.offerAll rows).1
    let t := (start.offerAll rows).2
    answers.length = rows.length ∧
    (∀ k row, rows[k]? = some row →
      (answers[k]? = some (.error (.arity titles.length row.length)) ↔
        row.length ≠ titles.length) ∧
      (row.length ≠ titles.length →
        (start.offerAll (rows.take (k + 1))).2 = (start.offerAll (rows.take k)).2) ∧
      (answers[k]? = some (.ok true) ↔
        row.length = titles.length ∧ ¬start.AddedBefore rows k row) ∧
      (answers[k]? = some (.ok false) ↔
        row.length = titles.length ∧ start.AddedBefore rows k row)) ∧
    t.titles = titles ∧
    t.rows = (rows.filter fun row => row.length = titles.length).eraseDups ∧
    t.sortedRows.Pairwise (fun a b => compare (a.map Text.codes) (b.map Text.codes) = .lt) ∧
    (∀ row, row ∈ t.sortedRows ↔ row ∈ t.rows) ∧
    (∀ index, index = t.index ↔ index.Perm (List.range t.size) ∧
      (index.map (rowAt t.rows)).Pairwise
        fun a b => compare (a.map Text.codes) (b.map Text.codes) ≠ .gt) ∧
    (∀ rows' : List Row, (∀ row, row ∈ rows' ↔ row ∈ rows) →
      (start.offerAll rows').2.sortedRows = t.sortedRows ∧
        (start.offerAll rows').2.listing = t.listing) ∧
    ∀ titles' start' rows', ofTitles titles' = .ok start' →
      (start'.offerAll rows').2.titles = t.titles → (start'.offerAll rows').2.rows = t.rows →
        (start'.offerAll rows').2.index = t.index := by
  intro answers t
  have hstart := valid_ofTitles h
  obtain ⟨hstitles, hsrows⟩ := titles_of_ofTitles h
  obtain ⟨hv, htitles, hrows⟩ := hstart.offerAll rows
  rw [hsrows, List.nil_append, width, hstitles] at hrows
  rw [hstitles] at htitles
  refine ⟨length_answers start rows, fun k row hk => ?_, htitles, hrows, ?_, ?_, ?_, ?_, ?_⟩
  · obtain ⟨hrefused, hadded, hknown⟩ := answer_iff h hk
    refine ⟨hrefused, fun hw => ?_, hadded, hknown⟩
    rw [offerAll_take_succ hk, offer_of_width_ne]
    rwa [width, (hstart.offerAll (rows.take k)).2.1, hstitles]
  · simpa only [Row.compare_codes] using hv.ascending
  · exact fun row => (sortedRows_perm hv.index_perm).mem_iff
  · intro index
    simpa only [Row.compare_codes] using hv.eq_index_iff
  · intro rows' hsame
    have halike := hstart.alike_offerAll hsame
    exact ⟨halike.sortedRows_eq, halike.listing_eq⟩
  · intro titles' start' rows' h' ht hr
    have hv' := ((valid_ofTitles h').offerAll rows').1
    rw [hv'.eq_of_rows hv ht hr]

theorem offered_rows_of_two_widths :
    let start : Table := ⟨["k", "v"], [], []⟩
    let rows : List Row := [["m", "1"], ["b"], ["é", "0"], ["m", "1"], ["b", "9"]]
    let t := (start.offerAll rows).2
    ofTitles ["k", "v"] = .ok start ∧
      (start.offerAll rows).1[1]? = some (.error (.arity 2 1)) ∧
      (start.offerAll rows).1[3]? = some (.ok false) ∧
      t.rows = [["m", "1"], ["é", "0"], ["b", "9"]] ∧ t.index = [2, 0, 1] ∧
      (start.offerAll rows.reverse).2.listing = t.listing := by
  intro start rows t
  have h : ofTitles ["k", "v"] = .ok start := rfl
  obtain ⟨-, hanswers, -, hrows, -, -, hindex, hsame, -⟩ := offered_rows h rows
  have ht : t.rows = [["m", "1"], ["é", "0"], ["b", "9"]] := hrows.trans (by decide)
  refine ⟨h, (hanswers 1 ["b"] rfl).1.mpr (by decide), ?_, ht, ?_, (hsame rows.reverse ?_).2⟩
  · exact (hanswers 3 ["m", "1"] rfl).2.2.2.mpr ⟨rfl, 0, by decide, rfl, by decide⟩
  · refine ((hindex [2, 0, 1]).mpr ?_).symm
    rw [size, ht]
    decide
  · exact fun row => List.mem_reverse

end TableShell.Table
