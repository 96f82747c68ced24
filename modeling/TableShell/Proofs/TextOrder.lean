import Mathlib.Data.List.Basic
import TableShell.Table.Basic
import TableShell.Comparison

namespace TableShell

namespace Text

variable {a b : String}

def codes (s : String) : List Nat := s.toList.map Char.toNat

theorem codes_inj : codes a = codes b ↔ a = b := by
  have hcode : Function.Injective Char.toNat := fun _ _ h => Char.toNat_inj.mp h
  rw [codes, codes, (List.map_injective_iff.mpr hcode).eq_iff, String.toList_inj]

theorem compare_map_toNat (cs ds : List Char) :
    compare (cs.map Char.toNat) (ds.map Char.toNat) = .lt ↔ cs < ds := by
  induction cs generalizing ds with
  | nil => cases ds <;> simp
  | cons c cs ih =>
    cases ds with
    | nil => simp
    | cons d ds =>
      rw [List.map_cons, List.map_cons, List.compare_cons_cons, Ordering.then_eq_lt, ih,
        List.cons_lt_cons_iff, Nat.compare_eq_lt, Nat.compare_eq_eq, Char.toNat_inj]
      rfl

theorem compare_codes_eq_lt : compare (codes a) (codes b) = .lt ↔ a < b := by
  rw [codes, codes, compare_map_toNat, String.lt_iff]

theorem compare_codes_eq_eq : compare (codes a) (codes b) = .eq ↔ a = b := by
  rw [Std.compare_eq_iff_eq, codes_inj]

theorem compare_codes_eq_gt : compare (codes a) (codes b) = .gt ↔ b < a := by
  rw [Std.OrientedCmp.gt_iff_lt, compare_codes_eq_lt]

theorem compare_codes (a b : String) : compare (codes a) (codes b) = compare a b := by
  have hlt : ∀ {a b : String}, a < b → compare a b = .lt := fun h => if_pos h
  cases h : compare (codes a) (codes b) with
  | lt => exact (hlt (compare_codes_eq_lt.mp h)).symm
  | eq => rw [compare_codes_eq_eq.mp h, Std.compare_self]
  | gt => exact (Std.OrientedCmp.gt_iff_lt.mpr (hlt (compare_codes_eq_gt.mp h))).symm

end Text

theorem Row.compare_codes (a b : Row) :
    compare (a.map Text.codes) (b.map Text.codes) = compare a b := by
  induction a generalizing b with
  | nil => cases b <;> rfl
  | cons x xs ih =>
    cases b with
    | nil => rfl
    | cons y ys =>
      rw [List.map_cons, List.map_cons, List.compare_cons_cons, List.compare_cons_cons, ih,
        Text.compare_codes]

namespace Comparison

/-- What a comparison says of two texts that stand in this order. -/
def Admits : Comparison → Ordering → Prop
  | equal, o => o = .eq
  | unequal, o => o ≠ .eq
  | less, o => o = .lt
  | atMost, o => o ≠ .gt
  | greater, o => o = .gt
  | atLeast, o => o ≠ .lt

theorem holds_iff (c : Comparison) (a b : String) :
    c.holds a b ↔ c.Admits (compare (Text.codes a) (Text.codes b)) := by
  cases c with
  | equal => simp only [holds, Admits, decide_eq_true_iff, Text.compare_codes_eq_eq]
  | unequal => simp only [holds, Admits, decide_eq_true_iff, ne_eq, Text.compare_codes_eq_eq]
  | less => simp only [holds, Admits, decide_eq_true_iff, Text.compare_codes_eq_lt]
  | atMost =>
    simp only [holds, Admits, decide_eq_true_iff, ne_eq, Text.compare_codes_eq_gt, String.not_lt]
  | greater => simp only [holds, Admits, decide_eq_true_iff, Text.compare_codes_eq_gt]
  | atLeast =>
    simp only [holds, Admits, decide_eq_true_iff, ne_eq, Text.compare_codes_eq_lt, String.not_lt]

end Comparison

end TableShell
