import TableShell.Table.Join
import TableShell.Table.Select

namespace TableShell

/-- Named tables, in ascending order of their names. -/
structure Database where
  entries : List (String × Table)
  ascending : entries.Pairwise (fun a b => compare a.1 b.1 = .lt)
  deriving DecidableEq, Repr

namespace Database

def empty : Database := ⟨[], .nil⟩

def names (db : Database) : List String := db.entries.map Prod.fst

def size (db : Database) : Nat := db.entries.length

def get? (db : Database) (name : String) : Option Table := db.entries.lookup name

def table (db : Database) (name : String) : Except Fault Table :=
  match db.get? name with
  | some t => .ok t
  | none => .error (.unknownTable name)

def putEntry (name : String) (t : Table) : List (String × Table) → List (String × Table)
  | [] => [(name, t)]
  | entry :: rest =>
    match compare name entry.1 with
    | .lt => (name, t) :: entry :: rest
    | .eq => (name, t) :: rest
    | .gt => entry :: putEntry name t rest

theorem mem_putEntry {name : String} {t : Table} {entries : List (String × Table)}
    {entry : String × Table} (h : entry ∈ putEntry name t entries) :
    entry = (name, t) ∨ entry ∈ entries := by
  induction entries with
  | nil => simpa [putEntry] using h
  | cons first rest ih =>
    simp only [putEntry] at h
    split at h <;> simp only [List.mem_cons] at h ⊢
    · exact h
    · exact h.imp_right .inr
    · obtain rfl | h := h
      · exact .inr (.inl rfl)
      · exact (ih h).imp_right .inr

theorem ascending_putEntry (name : String) (t : Table) {entries : List (String × Table)}
    (h : entries.Pairwise (fun a b => compare a.1 b.1 = .lt)) :
    (putEntry name t entries).Pairwise (fun a b => compare a.1 b.1 = .lt) := by
  induction entries with
  | nil => simp [putEntry]
  | cons first rest ih =>
    obtain ⟨hfirst, hrest⟩ := List.pairwise_cons.mp h
    simp only [putEntry]
    split <;> rename_i hc
    · refine List.pairwise_cons.mpr ⟨fun other ho => ?_, h⟩
      obtain rfl | ho := List.mem_cons.mp ho
      · exact hc
      · exact Std.TransCmp.lt_trans hc (hfirst other ho)
    · rw [← Std.LawfulEqOrd.eq_of_compare hc] at hfirst
      exact List.pairwise_cons.mpr ⟨hfirst, hrest⟩
    · refine List.pairwise_cons.mpr ⟨fun other ho => ?_, ih hrest⟩
      obtain rfl | ho := mem_putEntry ho
      · exact Std.OrientedCmp.gt_iff_lt.mp hc
      · exact hfirst other ho

def put (db : Database) (name : String) (t : Table) : Database :=
  ⟨putEntry name t db.entries, ascending_putEntry name t db.ascending⟩

def select (db : Database) (q : Query) : Except Fault Table := do
  match ← q.tables.mapM db.table with
  | [t] => t.select q
  | [left, right] => (← left.join right).select q
  | sources => .error (.tooManyTables sources.length)

theorem lookup_putEntry (name other : String) (t : Table) (entries : List (String × Table)) :
    (putEntry name t entries).lookup other =
      if other = name then some t else entries.lookup other := by
  by_cases h : other = name
  · subst h
    induction entries with
    | nil => simp [putEntry]
    | cons entry rest ih =>
      obtain ⟨n, u⟩ := entry
      simp only [putEntry]
      split
      · simp
      · simp
      · rename_i hc
        have hn : (other == n) = false := by
          rw [beq_eq_false_iff_ne]
          intro he
          simp [← he, Std.ReflOrd.compare_self] at hc
        simpa [List.lookup_cons, hn] using ih
  · have hb : (other == name) = false := by simpa using h
    induction entries with
    | nil => simp [putEntry, List.lookup_cons, h, hb]
    | cons entry rest ih =>
      obtain ⟨n, u⟩ := entry
      simp only [putEntry]
      split
      · simp [List.lookup_cons, h, hb]
      · rename_i hc
        have hn : name = n := Std.LawfulEqOrd.eq_of_compare hc
        subst hn
        simp [List.lookup_cons, h, hb]
      · simp only [List.lookup_cons, ih, if_neg h]

theorem get?_put (db : Database) (name other : String) (t : Table) :
    (db.put name t).get? other = if other = name then some t else db.get? other :=
  lookup_putEntry name other t db.entries

end Database

end TableShell
