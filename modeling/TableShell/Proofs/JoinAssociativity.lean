import TableShell.Proofs.JoinRows

namespace TableShell.Table

variable {a b c ab bc : Table} {x y z : Row}

theorem ownTitles_assoc (hab : ab.titles = a.titles ++ ownTitles a b)
    (hbc : bc.titles = b.titles ++ ownTitles b c) :
    ab.titles ++ ownTitles ab c = a.titles ++ ownTitles a bc := by
  have hown : ownTitles a bc = ownTitles a b ++ ownTitles ab c := by
    rw [ownTitles, hbc, List.filter_append]
    congr 1
    rw [ownTitles, ownTitles, List.filter_filter]
    apply List.filter_congr
    intro title _
    rw [hab]
    simp only [List.mem_append, mem_ownTitles]
    grind
  rw [hown, hab, List.append_assoc]

theorem combine_assoc (hab : ab.titles = a.titles ++ ownTitles a b)
    (hbc : bc.titles = b.titles ++ ownTitles b c) (hy : y.length = b.width)
    (hz : z.length = c.width) :
    combine ab c (combine a b x y) z = combine a bc x (combine b c y z) := by
  have hown : ownColumns a bc (combine b c y z) = ownColumns a b y ++ ownColumns ab c z := by
    rw [ownColumns, hbc, combine_eq, List.zip_append hy.symm, zip_ownColumns hz,
      List.filter_append]
    congr 1
    rw [ownColumns, ownColumns, List.filter_filter]
    apply List.filter_congr
    intro column _
    rw [hab]
    simp only [List.mem_append, mem_ownTitles]
    grind
  rw [combine_eq, combine_eq, combine_eq, hown, List.map_append, List.append_assoc]

theorem compatible_assoc (x y z : Option String) :
    (Compatible x y ∧ Compatible (x.or y) z) ↔ Compatible y z ∧ Compatible x (y.or z) := by
  cases x with
  | none => simp
  | some x =>
    cases y with
    | none => simp
    | some y =>
      cases z with
      | none => simp
      | some z =>
        simp only [Option.some_or, compatible_some]
        constructor
        · rintro ⟨rfl, rfl⟩
          exact ⟨rfl, rfl⟩
        · rintro ⟨rfl, rfl⟩
          exact ⟨rfl, rfl⟩

theorem agree_assoc (hb : b.titles.Nodup) (hc : c.titles.Nodup)
    (hab : ab.titles = a.titles ++ ownTitles a b) (hbc : bc.titles = b.titles ++ ownTitles b c)
    (hx : x.length = a.width) (hy : y.length = b.width) (hz : z.length = c.width) :
    (agree a b x y ∧ agree ab c (combine a b x y) z) ↔
      (agree b c y z ∧ agree a bc x (combine b c y z)) := by
  have hnodup : bc.titles.Nodup := hbc ▸ nodup_joinedTitles hb hc
  have hyz : (combine b c y z).length = bc.width := by
    rw [length_combine hy hz, ← hbc, width]
  rw [agree_iff hb hy, agree_iff hc hz, agree_iff hc hz, agree_iff hnodup hyz, hab, hbc,
    ← forall_and, ← forall_and]
  apply forall_congr'
  intro title
  rw [cell?_combine hx hy, cell?_combine hy hz]
  exact compatible_assoc _ _ _

theorem flatMap_filter_eq {α β : Type} {as : List α} {p : α → Bool} {f g : α → List β}
    (h : ∀ a ∈ as, if p a then f a = g a else g a = []) :
    (as.filter p).flatMap f = as.flatMap g := by
  induction as with
  | nil => rfl
  | cons a rest ih =>
    obtain ⟨ha, hrest⟩ := List.forall_mem_cons.mp h
    by_cases hp : p a
    · rw [if_pos hp] at ha
      rw [List.filter_cons_of_pos hp, List.flatMap_cons, List.flatMap_cons, ha, ih hrest]
    · rw [if_neg hp] at ha
      rw [List.filter_cons_of_neg hp, List.flatMap_cons, ha, List.nil_append, ih hrest]

theorem joinedRows_assoc (ha : a.Valid) (hb : b.Valid) (hc : c.Valid)
    (habt : ab.titles = a.titles ++ ownTitles a b) (habr : ab.rows = joinedRows a b)
    (hbct : bc.titles = b.titles ++ ownTitles b c) (hbcr : bc.rows = joinedRows b c) :
    joinedRows ab c = joinedRows a bc := by
  rw [joinedRows, joinedRows, habr, hbcr, joinedRows, joinedRows, List.flatMap_assoc]
  apply List.flatMap_congr
  intro x hx
  rw [List.flatMap_map, List.filter_flatMap, List.map_flatMap]
  apply flatMap_filter_eq
  intro y hy
  -- the third rows for this pair: on the right the pair may not agree and there are none
  rw [List.filter_map, List.map_map, List.filter_filter]
  have hyw := hb.width_eq y hy
  have hagree : ∀ z ∈ c.rows, (agree a b x y = true ∧ agree ab c (combine a b x y) z = true) ↔
      (agree b c y z = true ∧ agree a bc x (combine b c y z) = true) :=
    fun z hz => agree_assoc hb.titles_nodup hc.titles_nodup habt hbct (ha.width_eq x hx) hyw
      (hc.width_eq z hz)
  split <;> rename_i hxy
  · have hfilter : c.rows.filter (agree ab c (combine a b x y)) =
        c.rows.filter (fun z => (agree a bc x ∘ combine b c y) z && agree b c y z) := by
      apply List.filter_congr
      intro z hz
      rw [Bool.eq_iff_iff, Bool.and_eq_true, and_comm, Function.comp_apply, ← hagree z hz]
      exact (and_iff_right hxy).symm
    rw [hfilter]
    apply List.map_congr_left
    intro z hz
    exact combine_assoc habt hbct hyw (hc.width_eq z (List.mem_filter.mp hz).1)
  · rw [List.map_eq_nil_iff, List.filter_eq_nil_iff]
    intro z hz hboth
    rw [Bool.and_eq_true, Function.comp_apply] at hboth
    exact hxy ((hagree z hz).mpr ⟨hboth.2, hboth.1⟩).1

/-- Of three tables it does not matter which two are joined first: the titles, the rows, their order
and the index come out the same. -/
theorem join_assoc (ha : a.Valid) (hb : b.Valid) (hc : c.Valid) :
    ∃ ab bc t, a.join b = .ok ab ∧ b.join c = .ok bc ∧ ab.join c = .ok t ∧ a.join bc = .ok t := by
  obtain ⟨ab, hab, habv, habt, habr⟩ := ha.join_eq_ok hb
  obtain ⟨bc, hbc, hbcv, hbct, hbcr⟩ := hb.join_eq_ok hc
  obtain ⟨t, ht, htv, htt, htr⟩ := habv.join_eq_ok hc
  obtain ⟨t', ht', htv', htt', htr'⟩ := ha.join_eq_ok hbcv
  have heq : t = t' := by
    apply htv.eq_of_rows htv'
    · rw [htt, htt', ownTitles_assoc habt hbct]
    · rw [htr, htr', joinedRows_assoc ha hb hc habt habr hbct hbcr]
  exact ⟨ab, bc, t, hab, hbc, ht, heq ▸ ht'⟩

theorem join_assoc_of_triangle :
    let a : Table := ⟨["k", "x", "y"], [["2", "p", "q"], ["1", "p", "r"]], [1, 0]⟩
    let b : Table := ⟨["y", "z", "k"], [["r", "u", "1"], ["q", "u", "2"], ["q", "v", "2"]], [1, 2, 0]⟩
    let c : Table := ⟨["z", "k", "x"], [["v", "2", "p"], ["u", "1", "p"], ["u", "2", "s"]], [1, 2, 0]⟩
    (a.Valid ∧ b.Valid ∧ c.Valid) ∧
      ∃ ab bc t, a.join b = .ok ab ∧ b.join c = .ok bc ∧ ab.join c = .ok t ∧ a.join bc = .ok t := by
  intro a b c
  have ha : a.Valid := by constructor <;> decide
  have hb : b.Valid := by constructor <;> decide
  have hc : c.Valid := by constructor <;> decide
  exact ⟨⟨ha, hb, hc⟩, join_assoc ha hb hc⟩

end TableShell.Table
