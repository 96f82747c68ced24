import Mathlib.Data.List.DropRight
import TableShell.Text.Blank

namespace TableShell.Text

theorem dropEndWhile_eq (p : Char → Bool) (cs : List Char) :
    dropEndWhile p cs = cs.rdropWhile p := rfl

theorem dropEndWhile_isPrefix (p : Char → Bool) (cs : List Char) : dropEndWhile p cs <+: cs :=
  cs.rdropWhile_prefix p

theorem dropEndWhile_append {p : Char → Bool} {cs : List Char}
    (h : ∀ c, cs.getLast? = some c → p c = false) (later : List Char) :
    dropEndWhile p (cs ++ later) = cs ++ dropEndWhile p later := by
  simp only [dropEndWhile_eq]
  induction later using List.reverseRecOn with
  | nil =>
    have hkept : cs.rdropWhile p = cs := by
      rw [List.rdropWhile_eq_self_iff]
      intro hne hp
      rw [h _ (List.getLast?_eq_some_getLast hne)] at hp
      cases hp
    rw [List.append_nil, hkept, List.rdropWhile_nil, List.append_nil]
  | append_singleton later d ih =>
    rw [← List.append_assoc, List.rdropWhile_concat, List.rdropWhile_concat]
    split
    · exact ih
    · exact List.append_assoc cs later [d]

theorem dropEndWhile_cons (p : Char → Bool) (c : Char) (cs : List Char) :
    dropEndWhile p (c :: cs) = [] ∧ dropEndWhile p cs = [] ∨
      dropEndWhile p (c :: cs) = c :: dropEndWhile p cs := by
  simp only [dropEndWhile_eq]
  induction cs using List.reverseRecOn with
  | nil =>
    rw [List.rdropWhile_singleton, List.rdropWhile_nil]
    split
    · exact .inl ⟨rfl, rfl⟩
    · exact .inr rfl
  | append_singleton cs d ih =>
    rw [← List.cons_append, List.rdropWhile_concat, List.rdropWhile_concat]
    split
    · exact ih
    · exact .inr rfl

theorem toList_trim (s : String) :
    (trim s).toList = dropEndWhile isBlank (s.toList.dropWhile isBlank) := by
  simp [trim]

theorem subset_trim (s : String) : (trim s).toList ⊆ s.toList := by
  rw [toList_trim]
  exact List.Subset.trans (dropEndWhile_isPrefix _ _).subset (List.dropWhile_subset _)

theorem not_blank_last_trim {s : String} {c : Char} (h : (trim s).toList.getLast? = some c) :
    isBlank c = false := by
  rw [toList_trim, dropEndWhile_eq] at h
  obtain ⟨hne, rfl⟩ := List.mem_getLast?_eq_getLast h
  exact Bool.eq_false_iff.mpr (List.rdropWhile_last_not _ _ hne)

theorem dropWhile_trim (s : String) :
    (trim s).toList.dropWhile isBlank = (trim s).toList := by
  have hstart := dropEndWhile_isPrefix isBlank (s.toList.dropWhile isBlank)
  rw [← toList_trim] at hstart
  cases ht : (trim s).toList with
  | nil => rfl
  | cons c rest =>
    obtain ⟨later, hlater⟩ := hstart
    have hhead := List.head?_dropWhile_not isBlank s.toList
    rw [← hlater, ht, List.cons_append, List.head?_cons] at hhead
    exact List.dropWhile_cons_of_neg (by simpa using hhead)

theorem trim_trim (s : String) : trim (trim s) = trim s := by
  apply String.toList_inj.mp
  rw [toList_trim (trim s), dropWhile_trim, toList_trim s]
  exact List.rdropWhile_idempotent _ _

structure Trimmed (s : String) : Prop where
  first : ∀ c, s.toList.head? = some c → isBlank c = false
  last : ∀ c, s.toList.getLast? = some c → isBlank c = false

theorem trim_eq_self_iff {s : String} : trim s = s ↔ Trimmed s := by
  constructor
  · intro h
    constructor
    · intro c hc
      have hhead := List.head?_dropWhile_not isBlank s.toList
      rw [← h, dropWhile_trim, h, hc] at hhead
      simpa using hhead
    · intro c hc
      exact not_blank_last_trim (h.symm ▸ hc)
  · rintro ⟨hfirst, hlast⟩
    have hstart : s.toList.dropWhile isBlank = s.toList := by
      cases hs : s.toList with
      | nil => rfl
      | cons c rest => exact List.dropWhile_cons_of_neg (by simp [hfirst c (by rw [hs]; rfl)])
    apply String.toList_inj.mp
    rw [toList_trim, hstart]
    simpa [dropEndWhile_eq] using dropEndWhile_append hlast []

theorem trimmed_trim (s : String) : Trimmed (trim s) := trim_eq_self_iff.mp (trim_trim s)

end TableShell.Text
