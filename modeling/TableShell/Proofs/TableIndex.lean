import Mathlib.Data.List.Induction
import Mathlib.Data.List.Nodup
import TableShell.Table.Basic

namespace TableShell.Table

/-- What insertion keeps of a table. That the search for a row finds every duplicate rests on the
order of the index, and that the index stays in order rests on there being no duplicates, so the two
are kept together. -/
structure Valid (t : Table) : Prop where
  titles_ne_nil : t.titles ≠ []
  titles_nodup : t.titles.Nodup
  width_eq : ∀ row ∈ t.rows, row.length = t.width
  index_perm : t.index.Perm (List.range t.size)
  ascending : t.sortedRows.Pairwise (fun a b => compare a b = .lt)

def columns (t : Table) : List (List String) :=
  (List.range t.width).map fun k => t.rows.filterMap (·[k]?)

theorem length_columns (t : Table) : t.columns.length = t.titles.length := by
  simp [columns, width]

variable {t t' : Table} {rows : List Row} {row : Row} {index : List Nat}

theorem rowAt_append_of_lt {k : Nat} (hk : k < rows.length) (later : List Row) :
    rowAt (rows ++ later) k = rowAt rows k := by
  simp [rowAt, List.getElem?_append_left hk]

theorem rowAt_length_append (row : Row) : rowAt (rows ++ [row]) rows.length = row := by
  simp [rowAt]

theorem map_rowAt_range (rows : List Row) : (List.range rows.length).map (rowAt rows) = rows := by
  apply List.ext_getElem
  · simp
  · intro k hk _
    have hlt : k < rows.length := by simpa using hk
    simp [rowAt, hlt]

theorem sortedRows_perm (h : t.index.Perm (List.range t.size)) : t.sortedRows.Perm t.rows := by
  have hp := h.map (rowAt t.rows)
  rwa [size, map_rowAt_range] at hp

theorem exists_of_rank?_eq_none (h : rank? rows row index = none) :
    ∃ k ∈ index, rowAt rows k = row := by
  induction index with
  | nil => cases h
  | cons k later ih =>
    rw [rank?] at h
    split at h
    · obtain ⟨j, hj, he⟩ := ih (Option.map_eq_none_iff.mp h)
      exact ⟨j, List.mem_cons_of_mem _ hj, he⟩
    · rename_i hc
      exact ⟨k, List.mem_cons_self, Std.LawfulEqOrd.eq_of_compare hc⟩
    · cases h

/-- The search has passed smaller rows only, and has stopped at a greater one or at the end. -/
theorem split_of_rank?_eq_some {rank : Nat} (h : rank? rows row index = some rank) :
    ∃ before after, index = before ++ after ∧ before.length = rank ∧
      (∀ k ∈ before, compare (rowAt rows k) row = .lt) ∧
      ∀ k, after.head? = some k → compare row (rowAt rows k) = .lt := by
  induction index generalizing rank with
  | nil =>
    cases h
    exact ⟨[], [], rfl, rfl, by simp, by simp⟩
  | cons k later ih =>
    rw [rank?] at h
    split at h <;> rename_i hc
    · obtain ⟨rank', hr, rfl⟩ := Option.map_eq_some_iff.mp h
      obtain ⟨before, after, rfl, rfl, hb, ha⟩ := ih hr
      refine ⟨k :: before, after, rfl, rfl, ?_, ha⟩
      intro j hj
      obtain rfl | hj := List.mem_cons.mp hj
      · exact hc
      · exact hb j hj
    · cases h
    · cases h
      refine ⟨[], k :: later, rfl, rfl, by simp, ?_⟩
      intro j hj
      obtain rfl : k = j := by simpa using hj
      exact Std.OrientedCmp.gt_iff_lt.mp hc

theorem insertIdx_middle {α : Type} (before after : List α) (x : α) :
    (before ++ after).insertIdx before.length x = before ++ x :: after := by
  induction before with
  | nil => rfl
  | cons b before ih => simp [ih]

theorem insert_eq_ok {added : Bool} (h : t.insert row = .ok (added, t')) :
    row.length = t.width ∧
      (rank? t.rows row t.index = none ∧ added = false ∧ t' = t ∨
        ∃ rank, rank? t.rows row t.index = some rank ∧ added = true ∧
          t' = { t with rows := t.rows ++ [row], index := t.index.insertIdx rank t.size }) := by
  rw [Table.insert] at h
  split at h
  · cases h
  · rename_i hw
    refine ⟨by simpa using hw, ?_⟩
    split at h <;> rename_i hr <;> cases h
    · exact .inl ⟨hr, rfl, rfl⟩
    · exact .inr ⟨_, hr, rfl, rfl⟩

theorem insert_of_rank? {rank : Nat} (hw : row.length = t.width)
    (hr : rank? t.rows row t.index = some rank) :
    t.insert row = .ok (true,
      { t with rows := t.rows ++ [row], index := t.index.insertIdx rank t.size }) := by
  simp [Table.insert, hw, hr]

theorem insertAll_induction {P : Table → Prop} {added : List Row}
    (hstep : ∀ row ∈ added, ∀ t t' fresh, P t → t.insert row = .ok (fresh, t') → P t')
    (h : P t) (hi : t.insertAll added = .ok t') : P t' := by
  induction added generalizing t with
  | nil =>
    cases hi
    exact h
  | cons row rest ih =>
    obtain ⟨hrow, hrest⟩ := List.forall_mem_cons.mp hstep
    rw [Table.insertAll, List.foldlM_cons] at hi
    cases hr : t.insert row with
    | error fault =>
      rw [hr] at hi
      cases hi
    | ok inserted =>
      rw [hr] at hi
      exact ih hrest (hrow _ _ _ h hr) hi

namespace Valid

theorem rows_nodup (h : t.Valid) : t.rows.Nodup := by
  rw [← (sortedRows_perm h.index_perm).nodup_iff]
  apply h.ascending.imp
  rintro a b hlt rfl
  rw [Std.compare_self] at hlt
  cases hlt

theorem row_ne_nil (h : t.Valid) : ∀ row ∈ t.titles :: t.rows, row ≠ [] := by
  refine List.forall_mem_cons.mpr ⟨h.titles_ne_nil, fun row hr hnil => h.titles_ne_nil ?_⟩
  have hwidth := h.width_eq row hr
  rw [hnil] at hwidth
  exact List.length_eq_zero_iff.mp hwidth.symm

theorem length_rowAt (h : t.Valid) {k : Nat} (hk : k < t.size) :
    (rowAt t.rows k).length = t.width := by
  have hlt : k < t.rows.length := hk
  apply h.width_eq
  simp [rowAt, hlt]

theorem lt_size (h : t.Valid) {k : Nat} (hk : k ∈ t.index) : k < t.size :=
  List.mem_range.mp (h.index_perm.mem_iff.mp hk)

theorem ascending_insertIdx (h : t.Valid) {rank : Nat}
    (hr : rank? t.rows row t.index = some rank) :
    ((t.index.insertIdx rank t.size).map (rowAt (t.rows ++ [row]))).Pairwise
      (fun a b => compare a b = .lt) := by
  obtain ⟨before, after, hi, rfl, hbefore, hhead⟩ := split_of_rank?_eq_some hr
  have hsorted := h.ascending
  have hlt : ∀ k ∈ before ++ after, k < t.size := fun k hk => h.lt_size (hi ▸ hk)
  rw [sortedRows, hi, List.map_append, List.pairwise_append] at hsorted
  obtain ⟨hb, ha, hba⟩ := hsorted
  have hafter : ∀ k ∈ after, compare row (rowAt t.rows k) = .lt := by
    cases after with
    | nil => simp
    | cons j later =>
      intro k hk
      obtain rfl | hk := List.mem_cons.mp hk
      · exact hhead k rfl
      · exact Std.TransCmp.lt_trans (hhead j rfl)
          ((List.pairwise_cons.mp ha).1 _ (List.mem_map_of_mem hk))
  have hold : ∀ ks : List Nat, (∀ k ∈ ks, k < t.size) →
      ks.map (rowAt (t.rows ++ [row])) = ks.map (rowAt t.rows) :=
    fun ks hks => List.map_congr_left fun k hk => rowAt_append_of_lt (hks k hk) _
  rw [hi, insertIdx_middle, List.map_append, List.map_cons,
    hold before fun k hk => hlt k (List.mem_append_left _ hk),
    hold after fun k hk => hlt k (List.mem_append_right _ hk),
    size, rowAt_length_append, List.pairwise_append, List.pairwise_cons]
  refine ⟨hb, ⟨?_, ha⟩, ?_⟩
  · intro other ho
    obtain ⟨k, hk, rfl⟩ := List.mem_map.mp ho
    exact hafter k hk
  · intro a ham other ho
    obtain ⟨k, hk, rfl⟩ := List.mem_map.mp ham
    obtain rfl | ho := List.mem_cons.mp ho
    · exact hbefore k hk
    · exact hba _ ham other ho

theorem perm_insertIdx (h : t.Valid) {rank : Nat} (hr : rank? t.rows row t.index = some rank) :
    (t.index.insertIdx rank t.size).Perm (List.range (t.rows ++ [row]).length) := by
  obtain ⟨before, after, hi, rfl, -, -⟩ := split_of_rank?_eq_some hr
  have hp := h.index_perm
  rw [hi] at hp ⊢
  rw [insertIdx_middle, List.length_append, List.length_singleton, List.range_succ]
  refine List.perm_middle.trans ((hp.cons t.size).trans ?_)
  exact (List.perm_append_singleton _ _).symm

theorem insert (h : t.Valid) {added : Bool} (hi : t.insert row = .ok (added, t')) : t'.Valid := by
  obtain ⟨hw, ⟨-, -, rfl⟩ | ⟨rank, hr, -, rfl⟩⟩ := insert_eq_ok hi
  · exact h
  · refine ⟨h.titles_ne_nil, h.titles_nodup, ?_, h.perm_insertIdx hr, h.ascending_insertIdx hr⟩
    intro other ho
    obtain ho | ho := List.mem_append.mp ho
    · exact h.width_eq other ho
    · rw [List.mem_singleton.mp ho]
      exact hw

theorem insertAll (h : t.Valid) {added : List Row} (hi : t.insertAll added = .ok t') : t'.Valid :=
  insertAll_induction (fun _ _ _ _ _ ht hrow => ht.insert hrow) h hi

theorem rank?_eq_none_iff (h : t.Valid) : rank? t.rows row t.index = none ↔ row ∈ t.rows := by
  constructor
  · intro hr
    obtain ⟨k, hk, rfl⟩ := exists_of_rank?_eq_none hr
    have hlt : k < t.rows.length := h.lt_size hk
    simp [rowAt, hlt]
  · intro hm
    cases hr : rank? t.rows row t.index with
    | none => rfl
    | some rank =>
      -- the row would stand twice in a table that is still in order
      have hnodup := (h.insert (insert_of_rank? (h.width_eq row hm) hr)).rows_nodup
      rw [List.nodup_append] at hnodup
      exact absurd rfl (hnodup.2.2 row hm row List.mem_cons_self)

theorem length_of_mem_columns (h : t.Valid) : ∀ column ∈ t.columns, column.length = t.size := by
  intro column hc
  obtain ⟨k, hk, rfl⟩ := List.mem_map.mp hc
  rw [List.mem_range] at hk
  rw [size, List.length_filterMap_eq_countP, List.countP_eq_length]
  intro row hr
  have hw := h.width_eq row hr
  simp [hw, hk]

theorem rowAt_inj (h : t.Valid) {j k : Nat} (hj : j < t.size) (hk : k < t.size)
    (he : rowAt t.rows j = rowAt t.rows k) : j = k := by
  have hj' : j < t.rows.length := hj
  have hk' : k < t.rows.length := hk
  have hget : t.rows[j] = t.rows[k] := by simpa [rowAt, hj', hk'] using he
  exact (List.Nodup.getElem_inj_iff h.rows_nodup).mp hget

/-- No other order of the positions sorts the rows. -/
theorem eq_index_iff (h : t.Valid) {index : List Nat} :
    index = t.index ↔ index.Perm (List.range t.size) ∧
      (index.map (rowAt t.rows)).Pairwise fun a b => compare a b ≠ .gt := by
  have hascending : (t.index.map (rowAt t.rows)).Pairwise fun a b => compare a b ≠ .gt :=
    h.ascending.imp fun hlt => by simp [hlt]
  constructor
  · rintro rfl
    exact ⟨h.index_perm, hascending⟩
  · rintro ⟨hperm, hsorted⟩
    refine (hperm.trans h.index_perm.symm).eq_of_pairwise ?_ (List.pairwise_map.mp hsorted)
      (List.pairwise_map.mp hascending)
    intro j k hj hk hjk hkj
    apply h.rowAt_inj (List.mem_range.mp (hperm.mem_iff.mp hj)) (h.lt_size hk)
    cases hc : compare (rowAt t.rows j) (rowAt t.rows k) with
    | lt => exact absurd (Std.OrientedCmp.gt_iff_lt.mpr hc) hkj
    | eq => exact Std.LawfulEqOrd.eq_of_compare hc
    | gt => exact absurd hc hjk

/-- The index is no more than what the rows make of it. -/
theorem eq_of_rows (h : t.Valid) (h' : t'.Valid) (htitles : t.titles = t'.titles)
    (hrows : t.rows = t'.rows) : t = t' := by
  obtain ⟨titles, rows, index⟩ := t
  obtain ⟨titles', rows', index'⟩ := t'
  obtain rfl : titles = titles' := htitles
  obtain rfl : rows = rows' := hrows
  obtain rfl : index = index' :=
    h'.eq_index_iff.mpr ⟨h.index_perm, h.ascending.imp fun hlt => by simp [hlt]⟩
  rfl

end Valid

theorem nodup_of_firstRepeated? {titles seen : List String}
    (h : firstRepeated? seen titles = none) :
    titles.Nodup ∧ ∀ title ∈ titles, title ∉ seen := by
  induction titles generalizing seen with
  | nil => simp
  | cons title rest ih =>
    rw [firstRepeated?] at h
    split at h
    · cases h
    · rename_i hnew
      obtain ⟨hnodup, hseen⟩ := ih h
      refine ⟨List.nodup_cons.mpr ⟨fun hm => hseen title hm List.mem_cons_self, hnodup⟩, ?_⟩
      intro other ho
      obtain rfl | ho := List.mem_cons.mp ho
      · exact hnew
      · exact fun hs => hseen other ho (List.mem_cons_of_mem _ hs)

theorem valid_ofTitles {titles : List String} (h : ofTitles titles = .ok t) : t.Valid := by
  rw [ofTitles] at h
  split at h
  · cases h
  · rename_i hne
    split at h <;> rename_i hr <;> cases h
    exact ⟨hne, (nodup_of_firstRepeated? hr).1, by simp, by simp [size], by simp [sortedRows]⟩

theorem titles_of_ofTitles {titles : List String} (h : ofTitles titles = .ok t) :
    t.titles = titles ∧ t.rows = [] := by
  rw [ofTitles] at h
  split at h
  · cases h
  · split at h <;> cases h
    exact ⟨rfl, rfl⟩

theorem firstRepeated?_of_nodup {titles seen : List String} (h : titles.Nodup)
    (hs : ∀ title ∈ titles, title ∉ seen) : firstRepeated? seen titles = none := by
  induction titles generalizing seen with
  | nil => rfl
  | cons title rest ih =>
    obtain ⟨hnew, hrest⟩ := List.nodup_cons.mp h
    obtain ⟨htitle, hseen⟩ := List.forall_mem_cons.mp hs
    rw [firstRepeated?, if_neg htitle]
    apply ih hrest
    intro other ho hm
    obtain rfl | hm := List.mem_cons.mp hm
    · exact hnew ho
    · exact hseen other ho hm

theorem ofTitles_of_nodup {titles : List String} (hne : titles ≠ []) (h : titles.Nodup) :
    ofTitles titles = .ok ⟨titles, [], []⟩ := by
  rw [ofTitles, if_neg hne, firstRepeated?_of_nodup h (by simp)]

/-- The name stands there a second time, and no name before it does. -/
def FirstRepeated (names : List String) (name : String) : Prop :=
  ∃ before after, names = before ++ name :: after ∧ before.Nodup ∧ name ∈ before

theorem firstRepeated?_eq_some_iff {titles seen : List String} {name : String} :
    firstRepeated? seen titles = some name ↔
      ∃ before after, titles = before ++ name :: after ∧ before.Nodup ∧
        (∀ title ∈ before, title ∉ seen) ∧ (name ∈ before ∨ name ∈ seen) := by
  induction titles generalizing seen with
  | nil => simp [firstRepeated?]
  | cons title rest ih =>
    rw [firstRepeated?]
    split <;> rename_i hseen
    · constructor
      · rintro ⟨⟩
        exact ⟨[], rest, rfl, .nil, by simp, .inr hseen⟩
      · rintro ⟨before, after, he, -, hnew, -⟩
        obtain ⟨-, he⟩ | ⟨later, rfl, -⟩ := List.cons_eq_append_iff.mp he
        · rw [(List.cons.inj he).1]
        · exact absurd hseen (hnew title List.mem_cons_self)
    · rw [ih]
      constructor
      · rintro ⟨before, after, rfl, hnodup, hnew, hname⟩
        refine ⟨title :: before, after, rfl, ?_, ?_, ?_⟩ <;> grind
      · rintro ⟨before, after, he, hnodup, hnew, hname⟩
        obtain ⟨rfl, he⟩ | ⟨later, rfl, rfl⟩ := List.cons_eq_append_iff.mp he
        · obtain ⟨rfl, -⟩ := List.cons.inj he
          simp [hseen] at hname
        · refine ⟨later, after, rfl, ?_, ?_, ?_⟩ <;> grind

theorem ofTitles_eq_error_iff {titles : List String} {fault : Fault} :
    ofTitles titles = .error fault ↔
      titles = [] ∧ fault = .noColumns ∨
        ∃ name, FirstRepeated titles name ∧ fault = .duplicateColumn name := by
  rw [ofTitles]
  split <;> rename_i hne
  · subst hne
    simp [FirstRepeated, eq_comm]
  · have hiff : ∀ name, firstRepeated? [] titles = some name ↔ FirstRepeated titles name := by
      simp [firstRepeated?_eq_some_iff, FirstRepeated]
    split <;> rename_i hr <;> simp [← hiff, hr, hne, eq_comm]

theorem eraseDups_of_nodup {α : Type} [BEq α] [LawfulBEq α] {as : List α} (h : as.Nodup) :
    as.eraseDups = as := by
  induction as with
  | nil => rfl
  | cons a rest ih =>
    obtain ⟨ha, hrest⟩ := List.nodup_cons.mp h
    have hf : rest.filter (fun b => !b == a) = rest := by
      apply List.filter_eq_self.mpr
      intro b hb
      have hne : b ≠ a := by
        rintro rfl
        exact ha hb
      simpa using hne
    rw [List.eraseDups_cons, hf, ih hrest]

theorem eraseDups_sublist {α : Type} [BEq α] [LawfulBEq α] (as : List α) :
    as.eraseDups.Sublist as := by
  cases as with
  | nil => exact .slnil
  | cons a rest =>
    rw [List.eraseDups_cons]
    exact ((eraseDups_sublist _).trans List.filter_sublist).cons_cons a
termination_by as.length
decreasing_by exact Nat.lt_succ_of_le (List.length_filter_le _ rest)

section FirstOccurrences

variable {α β : Type} [BEq α] [LawfulBEq α] [BEq β] [LawfulBEq β]

theorem eraseDups_concat (as : List α) (a : α) :
    (as ++ [a]).eraseDups = if a ∈ as then as.eraseDups else as.eraseDups ++ [a] := by
  rw [List.eraseDups_append]
  by_cases h : a ∈ as
  · simp [List.removeAll, h]
  · simp [List.removeAll, h, List.eraseDups_cons]

theorem filter_eraseDups (p : α → Bool) (as : List α) :
    as.eraseDups.filter p = (as.filter p).eraseDups := by
  induction as using List.reverseRecOn with
  | nil => rfl
  | append_singleton as a ih =>
    rw [List.filter_append, eraseDups_concat]
    by_cases hp : p a
    · by_cases ha : a ∈ as <;> simp [eraseDups_concat, hp, ha, ih]
    · by_cases ha : a ∈ as <;> simp [hp, ha, ih]

theorem eraseDups_map_eraseDups (f : α → β) (as : List α) :
    (as.eraseDups.map f).eraseDups = (as.map f).eraseDups := by
  induction as using List.reverseRecOn with
  | nil => rfl
  | append_singleton as a ih =>
    rw [List.map_append, List.map_singleton, eraseDups_concat, eraseDups_concat, ← ih]
    by_cases ha : a ∈ as
    · rw [if_pos ha, if_pos (List.mem_map_of_mem ha)]
    · have hmem : f a ∈ as.eraseDups.map f ↔ f a ∈ as.map f := by
        simp only [List.mem_map, List.mem_eraseDups]
      rw [if_neg ha, List.map_append, List.map_singleton, eraseDups_concat]
      simp only [hmem]

end FirstOccurrences

/-- Rows that have a cell for each title are added where they first occur, and never again. -/
theorem Valid.insertAll_eq_ok (h : t.Valid) {added : List Row}
    (hw : ∀ row ∈ added, row.length = t.width) :
    ∃ t', t.insertAll added = .ok t' ∧ t'.Valid ∧ t'.titles = t.titles ∧
      t'.rows = (t.rows ++ added).eraseDups := by
  induction added generalizing t with
  | nil => exact ⟨t, rfl, h, rfl, by rw [List.append_nil, eraseDups_of_nodup h.rows_nodup]⟩
  | cons row rest ih =>
    obtain ⟨hrow, hrest⟩ := List.forall_mem_cons.mp hw
    rw [Table.insertAll, List.foldlM_cons]
    cases hr : rank? t.rows row t.index with
    | none =>
      have hi : t.insert row = .ok (false, t) := by simp [Table.insert, hrow, hr]
      obtain ⟨t', ht', hv, htitles, hrows⟩ := ih h hrest
      refine ⟨t', ?_, hv, htitles, ?_⟩
      · rw [hi]
        exact ht'
      · have hm := h.rank?_eq_none_iff.mp hr
        rw [hrows, List.eraseDups_append, List.eraseDups_append]
        simp [List.removeAll, hm]
    | some rank =>
      have hi := insert_of_rank? hrow hr
      obtain ⟨t', ht', hv, htitles, hrows⟩ := ih (h.insert hi) hrest
      refine ⟨t', ?_, hv, htitles, ?_⟩
      · rw [hi]
        exact ht'
      · rw [hrows, List.append_assoc, List.singleton_append]

theorem insert_eq_error_iff {fault : Fault} :
    t.insert row = .error fault ↔ row.length ≠ t.width ∧ fault = .arity t.width row.length := by
  rw [Table.insert]
  split <;> rename_i hw
  · simp [hw, eq_comm]
  · simp only [ne_eq, not_not] at hw
    split <;> simp [hw]

theorem exists_insert_of_width (h : row.length = t.width) :
    ∃ added t', t.insert row = .ok (added, t') := by
  cases hi : t.insert row with
  | error fault => exact absurd h (insert_eq_error_iff.mp hi).1
  | ok inserted => exact ⟨inserted.1, inserted.2, rfl⟩

theorem width_of_insert {added : Bool} (h : t.insert row = .ok (added, t')) :
    t'.width = t.width := by
  obtain ⟨-, ⟨-, -, rfl⟩ | ⟨rank, -, -, rfl⟩⟩ := insert_eq_ok h <;> rfl

theorem width_of_insertAll {added : List Row} (hi : t.insertAll added = .ok t') :
    ∀ row ∈ added, row.length = t.width := by
  induction added generalizing t with
  | nil => simp
  | cons row rest ih =>
    rw [Table.insertAll, List.foldlM_cons] at hi
    obtain ⟨_, hone, hi⟩ := exists_of_bind_eq_ok hi
    obtain ⟨⟨fresh, next⟩, hn, rfl⟩ := exists_of_map_eq_ok hone
    refine List.forall_mem_cons.mpr ⟨(insert_eq_ok hn).1, ?_⟩
    exact width_of_insert hn ▸ ih hi

theorem Valid.rows_of_insertAll (h : t.Valid) {added : List Row} (hi : t.insertAll added = .ok t') :
    t'.titles = t.titles ∧ t'.rows = (t.rows ++ added).eraseDups := by
  obtain ⟨made, hmade, -, htitles, hrows⟩ := h.insertAll_eq_ok (width_of_insertAll hi)
  rw [hi] at hmade
  cases hmade
  exact ⟨htitles, hrows⟩

end TableShell.Table
