import TableShell.Proofs.SameRows
import TableShell.Session

namespace TableShell

namespace Table

variable {left right t t' : Table} {cells : String → Option String}

theorem Compatible.symm {x y : Option String} (h : Compatible x y) : Compatible y x :=
  fun cell cell' hy hx => (h cell' cell hx hy).symm

theorem Compatible.or_comm {x y : Option String} (h : Compatible x y) : x.or y = y.or x := by
  cases x with
  | none => simp
  | some x =>
    cases y with
    | none => rfl
    | some y => rw [compatible_some.mp h]

/-- A row of the join is a row of either table, with the cells that both have in common. -/
theorem Valid.holds_join_iff (hl : left.Valid) (hr : right.Valid) (h : left.join right = .ok t) :
    t.Holds cells ↔ ∃ f g, left.Holds f ∧ right.Holds g ∧
      (∀ title, Compatible (f title) (g title)) ∧ (fun title => (f title).or (g title)) = cells := by
  obtain ⟨made, hmade, -, htitles, hrows⟩ := hl.join_eq_ok hr
  obtain rfl : made = t := by simpa [h] using hmade.symm
  simp only [Holds, htitles, hrows, mem_joinedRows]
  constructor
  · rintro ⟨_, ⟨l, hlm, r, hrm, hagree, rfl⟩, rfl⟩
    rw [agree_iff hr.titles_nodup (hr.width_eq r hrm)] at hagree
    refine ⟨_, _, ⟨l, hlm, rfl⟩, ⟨r, hrm, rfl⟩, hagree, ?_⟩
    funext title
    exact (cell?_combine (hl.width_eq l hlm) (hr.width_eq r hrm) title).symm
  · rintro ⟨_, _, ⟨l, hlm, rfl⟩, ⟨r, hrm, rfl⟩, hagree, rfl⟩
    rw [← agree_iff hr.titles_nodup (hr.width_eq r hrm)] at hagree
    refine ⟨_, ⟨l, hlm, r, hrm, hagree, rfl⟩, ?_⟩
    funext title
    exact cell?_combine (hl.width_eq l hlm) (hr.width_eq r hrm) title

theorem Valid.holds_of_swapped (hl : left.Valid) (hr : right.Valid) (h : left.join right = .ok t)
    (h' : right.join left = .ok t') (hc : t.Holds cells) : t'.Holds cells := by
  obtain ⟨f, g, hf, hg, hagree, rfl⟩ := (hl.holds_join_iff hr h).mp hc
  refine (hr.holds_join_iff hl h').mpr ⟨g, f, hg, hf, fun title => (hagree title).symm, ?_⟩
  funext title
  exact (hagree title).or_comm.symm

theorem Valid.rearranged_join (hl : left.Valid) (hr : right.Valid) :
    Matching Rearranged (left.join right) (right.join left) := by
  obtain ⟨t, ht, htv, htitles, -⟩ := hl.join_eq_ok hr
  obtain ⟨t', ht', htv', htitles', -⟩ := hr.join_eq_ok hl
  rw [ht, ht']
  refine .ok ⟨htv, htv', ?_, ?_⟩
  · intro title
    rw [htitles, htitles', mem_joinedTitles, mem_joinedTitles]
    exact or_comm
  · intro cells
    constructor
    · exact hl.holds_of_swapped hr ht ht'
    · exact hr.holds_of_swapped hl ht' ht

end Table

namespace Session

variable {s : Session} {first second : String} {left right : Table}

/-- Whichever of two tables a query names first, it fails with the same fault or has an answer with
the same titles and the same rows in ascending order; and the statement does and prints the same. -/
theorem select_of_swapped_tables (hl : s.database.get? first = some left)
    (hr : s.database.get? second = some right) (hlv : left.Valid) (hrv : right.Valid)
    (columns : List String) (conditions : List Condition) :
    let q : Query := ⟨columns, [first, second], conditions⟩
    let q' : Query := ⟨columns, [second, first], conditions⟩
    Matching (fun t t' => t.titles = t'.titles ∧ t.sortedRows = t'.sortedRows)
        (s.database.select q) (s.database.select q') ∧
      s.execute (.select q) = s.execute (.select q') := by
  intro q q'
  have halike : Matching Table.Alike (s.database.select q) (s.database.select q') := by
    rw [Database.select_of_two hl hr, Database.select_of_two hr hl]
    apply (hlv.rearranged_join hrv).bind
    intro t t' ht
    exact ht.select q
  refine ⟨halike.imp fun t t' ht => ⟨ht.titles_eq, ht.sortedRows_eq⟩, ?_⟩
  have hanswer : ∀ db : Database,
      ((s.database.select q).map fun t => Effect.mk ("Search results:\n" ++ t.listing) db true) =
        (s.database.select q').map fun t => ⟨"Search results:\n" ++ t.listing, db, true⟩ := by
    intro db
    apply (halike.map _).eq
    intro t t' ht
    rw [ht.listing_eq]
  simp only [execute, Statement.request, Folder.serve, Statement.effect, hanswer]

theorem select_of_swapped_tables_with_shared_title :
    let left : Table := ⟨["a", "b"], [["z", "1"], ["x", "2"], ["y", "1"]], [1, 2, 0]⟩
    let right : Table := ⟨["b", "c"], [["2", "w"], ["1", "y"], ["1", "x"]], [2, 1, 0]⟩
    let db := (Database.empty.put "l" left).put "r" right
    let s : Session := { new [] "" .empty .unlimited false with database := db }
    let conditions : List Condition := [⟨"a", .atLeast, .column "c"⟩]
    (left.Valid ∧ right.Valid) ∧
      s.execute (.select ⟨["c", "a"], ["l", "r"], conditions⟩) =
        s.execute (.select ⟨["c", "a"], ["r", "l"], conditions⟩) := by
  intro left right db s conditions
  have hl : left.Valid := by constructor <;> decide
  have hr : right.Valid := by constructor <;> decide
  have hfirst : s.database.get? "l" = some left := by simp [s, db, Database.get?_put]
  have hsecond : s.database.get? "r" = some right := by simp [s, db, Database.get?_put]
  exact ⟨⟨hl, hr⟩, (select_of_swapped_tables hfirst hsecond hl hr ["c", "a"] conditions).2⟩

end Session

end TableShell
