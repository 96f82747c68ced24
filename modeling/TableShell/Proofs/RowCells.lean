import Mathlib.Data.List.Forall2
import TableShell.Table.Basic

namespace TableShell.Row

variable {titles : List String} {row : Row} {title cell : String}

theorem map_fst_zip (hw : row.length = titles.length) : (titles.zip row).map Prod.fst = titles :=
  List.map_fst_zip (Nat.le_of_eq hw.symm)

theorem cell?_eq_some_iff (h : titles.Nodup) (hw : row.length = titles.length) :
    cell? titles row title = some cell ↔ (title, cell) ∈ titles.zip row := by
  rw [cell?, List.lookup_eq_some_iff]
  constructor
  · rintro ⟨before, after, he, -⟩
    simp [he]
  · intro hm
    obtain ⟨before, after, he⟩ := List.append_of_mem hm
    refine ⟨before, after, he, ?_⟩
    intro column hc
    rw [← map_fst_zip hw, he, List.map_append, List.map_cons, List.nodup_append] at h
    simpa using (h.2.2 _ (List.mem_map_of_mem hc) title List.mem_cons_self).symm

/-- The cell stands in the row where the title stands among the titles. -/
def Has (titles : List String) (row : Row) (title cell : String) : Prop :=
  ∃ k : Nat, titles[k]? = some title ∧ row[k]? = some cell

def Restricts (titles : List String) (row : Row) (columns : List String) (part : Row) : Prop :=
  List.Forall₂ (Has titles row) columns part

theorem has_iff (h : titles.Nodup) (hw : row.length = titles.length) :
    Has titles row title cell ↔ cell? titles row title = some cell := by
  rw [cell?_eq_some_iff h hw, List.mem_iff_getElem?]
  simp only [List.getElem?_zip_eq_some]
  rfl

theorem exists_cell?_of_mem (hw : row.length = titles.length) (h : title ∈ titles) :
    ∃ cell, cell? titles row title = some cell := by
  rw [← map_fst_zip hw] at h
  rw [← Option.isSome_iff_exists, cell?]
  simpa [List.lookup_isSome_iff] using h

theorem mem_of_cell? (h : cell? titles row title = some cell) : title ∈ titles ∧ cell ∈ row := by
  obtain ⟨before, after, he, -⟩ := List.lookup_eq_some_iff.mp h
  have hm : (title, cell) ∈ titles.zip row := by simp [he]
  exact List.of_mem_zip hm

theorem select_self (h : titles.Nodup) (hw : row.length = titles.length) :
    select titles row titles = row := by
  induction titles generalizing row with
  | nil => exact (List.length_eq_zero_iff.mp hw).symm
  | cons title rest ih =>
    obtain ⟨htitle, hrest⟩ := List.nodup_cons.mp h
    cases row with
    | nil => cases hw
    | cons cell cells =>
      have hlater : rest.filterMap (cell? (title :: rest) (cell :: cells)) =
          rest.filterMap (cell? rest cells) := by
        apply List.filterMap_congr
        intro other ho
        have hne : (other == title) = false := by
          rw [beq_eq_false_iff_ne]
          rintro rfl
          exact htitle ho
        simp [cell?, List.lookup_cons, hne]
      have hfirst : cell? (title :: rest) (cell :: cells) title = some cell := by simp [cell?]
      rw [select, List.filterMap_cons_some hfirst, hlater]
      exact congrArg _ (ih hrest (by simpa using hw))

theorem eq_of_cell? {row' : Row} (h : titles.Nodup) (hw : row.length = titles.length)
    (hw' : row'.length = titles.length)
    (hc : ∀ title ∈ titles, cell? titles row title = cell? titles row' title) : row = row' := by
  rw [← select_self h hw, ← select_self h hw']
  exact List.filterMap_congr hc

theorem restricts_iff {columns : List String} {part : Row} (h : titles.Nodup)
    (hw : row.length = titles.length) (hc : ∀ column ∈ columns, column ∈ titles) :
    Restricts titles row columns part ↔ select titles row columns = part := by
  rw [Restricts, select]
  induction columns generalizing part with
  | nil => simp [eq_comm]
  | cons column rest ih =>
    obtain ⟨hcolumn, hrest⟩ := List.forall_mem_cons.mp hc
    obtain ⟨cell, hcell⟩ := exists_cell?_of_mem hw hcolumn
    rw [List.filterMap_cons_some hcell]
    cases part with
    | nil => simp
    | cons first later =>
      rw [List.forall₂_cons, ih hrest, has_iff h hw, hcell, Option.some_inj, List.cons.injEq]

end TableShell.Row
