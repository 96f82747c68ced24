import Mathlib.Data.List.Chain
import TableShell.Text.Letter
import TableShell.Text.Printable

namespace TableShell.Text

namespace Ranges

variable {ranges rest : Ranges} {r : Nat × Nat} {n : Nat}

def Covers (ranges : Ranges) (n : Nat) : Prop := ∃ r ∈ ranges, r.1 ≤ n ∧ n ≤ r.2

/-- Each range starts after the one before it has ended, so that they may be searched in order. -/
def Ascending (ranges : Ranges) : Prop :=
  ranges.IsChain (fun a b => a.2 < b.1) ∧ ∀ r ∈ ranges, r.1 ≤ r.2

instance (ranges : Ranges) : Decidable ranges.Ascending := inferInstanceAs (Decidable (_ ∧ _))

theorem Ascending.tail (h : Ascending (r :: rest)) : rest.Ascending :=
  ⟨h.1.tail, fun s hs => h.2 s (List.mem_cons_of_mem _ hs)⟩

theorem Ascending.not_covers (h : Ascending (r :: rest)) (hn : n < r.1) :
    ¬ Covers (r :: rest) n := by
  induction rest generalizing r with
  | nil =>
    rintro ⟨s, hs, hin⟩
    obtain rfl := List.mem_singleton.mp hs
    omega
  | cons next rest ih =>
    have hr : r.1 ≤ r.2 := h.2 r List.mem_cons_self
    have hnext : r.2 < next.1 := (List.isChain_cons_cons.mp h.1).1
    rintro ⟨s, hs, hin⟩
    obtain rfl | hs := List.mem_cons.mp hs
    · omega
    · exact ih h.tail (by omega) ⟨s, hs, hin⟩

theorem contains_iff (h : ranges.Ascending) : ranges.contains n = true ↔ ranges.Covers n := by
  induction ranges with
  | nil => simp [contains, Covers]
  | cons r rest ih =>
    rw [contains]
    split
    · simpa using h.not_covers ‹_›
    · rename_i hn
      simp only [Bool.or_eq_true, decide_eq_true_eq, ih h.tail, Covers, List.mem_cons,
        exists_eq_or_imp, Nat.le_of_not_lt hn, true_and]

end Ranges

theorem ascending_letterRanges : letterRanges.Ascending := by decide +kernel

theorem ascending_numberRanges : numberRanges.Ascending := by decide +kernel

theorem ascending_hiddenRanges : hiddenRanges.Ascending := by decide +kernel

theorem ascending_ignorableRanges : ignorableRanges.Ascending := by decide +kernel

theorem ascending_combiningRanges : combiningRanges.Ascending := by decide +kernel

theorem isLetter_iff (c : Char) : isLetter c = true ↔ letterRanges.Covers c.toNat :=
  Ranges.contains_iff ascending_letterRanges

theorem isNumber_iff (c : Char) : isNumber c = true ↔ numberRanges.Covers c.toNat :=
  Ranges.contains_iff ascending_numberRanges

theorem isPrintable_iff (c : Char) :
    isPrintable c = true ↔ ¬ hiddenRanges.Covers c.toNat ∧ ¬ ignorableRanges.Covers c.toNat ∧
      ¬ combiningRanges.Covers c.toNat := by
  simp only [isPrintable, Bool.and_eq_true, Bool.not_eq_true', ← Bool.not_eq_true, and_assoc,
    Ranges.contains_iff ascending_hiddenRanges, Ranges.contains_iff ascending_ignorableRanges,
    Ranges.contains_iff ascending_combiningRanges]

end TableShell.Text
