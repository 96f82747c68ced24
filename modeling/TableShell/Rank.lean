namespace TableShell

/-- How much there is left to do: lines, and then tokens of lines that have been read. A line may
hold any number of tokens, so lines count first. -/
structure Rank where
  lines : Nat
  tokens : Nat

namespace Rank

instance : LT Rank := ⟨fun a b => a.lines < b.lines ∨ a.lines = b.lines ∧ a.tokens < b.tokens⟩

instance : LE Rank := ⟨fun a b => a.lines < b.lines ∨ a.lines = b.lines ∧ a.tokens ≤ b.tokens⟩

theorem lt_iff {a b : Rank} :
    a < b ↔ a.lines < b.lines ∨ a.lines = b.lines ∧ a.tokens < b.tokens := Iff.rfl

theorem le_iff {a b : Rank} :
    a ≤ b ↔ a.lines < b.lines ∨ a.lines = b.lines ∧ a.tokens ≤ b.tokens := Iff.rfl

theorem le_of_eq {a b : Rank} (h : a = b) : a ≤ b := by
  subst h
  exact .inr ⟨rfl, Nat.le_refl _⟩

theorem le_of_lt {a b : Rank} (h : a < b) : a ≤ b := by
  rw [lt_iff] at h
  rw [le_iff]
  omega

theorem le_trans {a b c : Rank} (hab : a ≤ b) (hbc : b ≤ c) : a ≤ c := by
  rw [le_iff] at *
  omega

theorem lt_of_lt_of_le {a b c : Rank} (hab : a < b) (hbc : b ≤ c) : a < c := by
  rw [le_iff] at hbc
  rw [lt_iff] at *
  omega

theorem lt_of_le_of_lt {a b c : Rank} (hab : a ≤ b) (hbc : b < c) : a < c := by
  rw [le_iff] at hab
  rw [lt_iff] at *
  omega

theorem wellFounded : WellFounded (fun a b : Rank => a < b) :=
  Subrelation.wf (fun h => Prod.lex_def.mpr h)
    (InvImage.wf (fun r : Rank => (r.lines, r.tokens)) (Prod.lex Nat.lt_wfRel Nat.lt_wfRel).wf)

instance : WellFoundedRelation Rank := ⟨fun a b => a < b, wellFounded⟩

end Rank

end TableShell
