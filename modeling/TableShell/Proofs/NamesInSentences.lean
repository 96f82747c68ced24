import TableShell.Proofs.SentenceWords

namespace TableShell

open Grammar

namespace Word

def role : Word → Word
  | name _ => name ""
  | word => word

variable {w w' : Word} {us ws vs : List Word} {separator : TokenKind}

theorem name_of_role {n : String} (h : w'.role = (name n).role) : ∃ n', w' = name n' := by
  cases w' <;> cases h
  exact ⟨_, rfl⟩

theorem eq_of_role (hw : ∀ n, w ≠ name n) (h : w'.role = w.role) : w' = w := by
  cases w with
  | name n => exact absurd rfl (hw n)
  | fixed | literal | leave =>
    cases w' <;> cases h
    rfl

abbrev SameRoles (us ws : List Word) : Prop := us.map role = ws.map role

theorem sameRoles_append (h : SameRoles us (ws ++ vs)) :
    ∃ before later, us = before ++ later ∧ SameRoles before ws ∧ SameRoles later vs := by
  rw [SameRoles, List.map_append] at h
  exact List.map_eq_append_iff.mp h

theorem sameRoles_cons (h : SameRoles us (w :: ws)) :
    ∃ w' later, us = w' :: later ∧ w'.role = w.role ∧ SameRoles later ws := by
  rw [SameRoles, List.map_cons] at h
  exact List.map_eq_cons_iff.mp h

theorem sameRoles_fixed {kind : TokenKind} (h : SameRoles us (.fixed kind :: ws)) :
    ∃ later, us = .fixed kind :: later ∧ SameRoles later ws := by
  obtain ⟨w', later, rfl, hw, hlater⟩ := sameRoles_cons h
  exact ⟨later, by rw [eq_of_role (by simp) hw], hlater⟩

theorem sameRoles_name {n : String} (h : SameRoles us (name n :: ws)) :
    ∃ n' later, us = name n' :: later ∧ SameRoles later ws := by
  obtain ⟨w', later, rfl, hw, hlater⟩ := sameRoles_cons h
  obtain ⟨n', rfl⟩ := name_of_role hw
  exact ⟨n', later, rfl, hlater⟩

theorem sameRoles_nil (h : SameRoles us []) : us = [] := List.map_eq_nil_iff.mp h

theorem sameRoles_verb {kind : TokenKind} {n : String} (h : SameRoles us [.fixed kind, name n]) :
    ∃ n', us = [.fixed kind, name n'] := by
  obtain ⟨later, rfl, hlater⟩ := sameRoles_fixed h
  obtain ⟨n', rest, rfl, hrest⟩ := sameRoles_name hlater
  exact ⟨n', by rw [sameRoles_nil hrest]⟩

theorem sameRoles_closed {kind : TokenKind} (h : SameRoles us (ws ++ [.fixed kind])) :
    ∃ before, us = before ++ [.fixed kind] ∧ SameRoles before ws := by
  obtain ⟨before, later, rfl, hbefore, hlater⟩ := sameRoles_append h
  obtain ⟨rest, rfl, hrest⟩ := sameRoles_fixed hlater
  exact ⟨before, by rw [sameRoles_nil hrest], hbefore⟩

theorem sameRoles_separated {α : Type} {Q : α → α → Prop} {item : α → List Word}
    (hitem : ∀ {us a}, SameRoles us (item a) → ∃ a', us = item a' ∧ Q a a') {as : List α}
    (h : SameRoles us (separated separator item as)) :
    ∃ as', us = separated separator item as' ∧ List.Forall₂ Q as as' := by
  induction as generalizing us with
  | nil => exact ⟨[], sameRoles_nil h, .nil⟩
  | cons a rest ih =>
    cases rest with
    | nil =>
      obtain ⟨a', rfl, hq⟩ := hitem h
      exact ⟨[a'], rfl, .cons hq .nil⟩
    | cons b rest =>
      obtain ⟨before, after, rfl, hbefore, hafter⟩ := sameRoles_append h
      obtain ⟨later, rfl, hlater⟩ := sameRoles_fixed hafter
      obtain ⟨a', rfl, hq⟩ := hitem hbefore
      obtain ⟨as', rfl, hrest⟩ := ih hlater
      cases hrest with
      | cons hb hrest => exact ⟨a' :: _, rfl, .cons hq (.cons hb hrest)⟩

theorem sameRoles_names {ns : List String} (h : SameRoles us (names ns)) :
    ∃ ns', us = names ns' ∧ (ns ≠ [] → ns' ≠ []) := by
  obtain ⟨ns', rfl, hq⟩ := sameRoles_separated (Q := fun _ _ => True) (fun ha => by
    obtain ⟨n', later, rfl, hlater⟩ := sameRoles_name ha
    exact ⟨n', by rw [sameRoles_nil hlater], trivial⟩) h
  refine ⟨ns', rfl, fun hne hnil => hne ?_⟩
  rw [hnil] at hq
  exact List.forall₂_nil_right_iff.mp hq

theorem sameRoles_row {cells : List String} (h : SameRoles us (row cells)) : us = row cells := by
  obtain ⟨before, rfl, hbefore⟩ := sameRoles_closed h
  obtain ⟨later, rfl, hlater⟩ := sameRoles_fixed hbefore
  obtain ⟨cells', rfl, hq⟩ := sameRoles_separated (Q := Eq) (fun ha => by
    obtain ⟨w', rest, rfl, hw, hrest⟩ := sameRoles_cons ha
    exact ⟨_, by rw [eq_of_role (by simp) hw, sameRoles_nil hrest], rfl⟩) hlater
  rw [List.forall₂_eq_eq_eq] at hq
  rw [hq]
  rfl

theorem sameRoles_condition {c : Condition} (h : SameRoles us (condition c)) :
    ∃ c', us = condition c' := by
  obtain ⟨column, comparison, operand⟩ := c
  cases operand with
  | literal value =>
    obtain ⟨column', after, rfl, hafter⟩ := sameRoles_name h
    obtain ⟨later, rfl, hlater⟩ := sameRoles_fixed hafter
    obtain ⟨w', rest, rfl, hw, hrest⟩ := sameRoles_cons hlater
    rw [eq_of_role (by simp) hw, sameRoles_nil hrest]
    exact ⟨⟨column', comparison, .literal value⟩, rfl⟩
  | column other =>
    obtain ⟨column', after, rfl, hafter⟩ := sameRoles_name h
    obtain ⟨later, rfl, hlater⟩ := sameRoles_fixed hafter
    obtain ⟨other', rest, rfl, hrest⟩ := sameRoles_name hlater
    rw [sameRoles_nil hrest]
    exact ⟨⟨column', comparison, .column other'⟩, rfl⟩

theorem sameRoles_selection {q : Query} (h : SameRoles us (selection q)) :
    ∃ q', us = selection q' ∧ (q.Complete → q'.Complete) := by
  obtain ⟨listed, rest, rfl, hlisted, hrest⟩ := sameRoles_append h
  obtain ⟨head, tail, rfl, hhead, htail⟩ := sameRoles_append hlisted
  obtain ⟨cs, rfl, hc⟩ := sameRoles_fixed hhead
  obtain ⟨ts, rfl, ht⟩ := sameRoles_fixed htail
  obtain ⟨columns, rfl, hcs⟩ := sameRoles_names hc
  obtain ⟨tables, rfl, hts⟩ := sameRoles_names ht
  have hcomplete : ∀ conditions, q.Complete → Query.Complete ⟨columns, tables, conditions⟩ :=
    fun _ hq => ⟨hcs hq.1, hts hq.2⟩
  by_cases hws : q.conditions = []
  · simp only [hws, if_true] at hrest
    refine ⟨⟨columns, tables, []⟩, ?_, hcomplete _⟩
    rw [sameRoles_nil hrest]
    rfl
  · simp only [hws, if_false] at hrest
    obtain ⟨ws, rfl, hw⟩ := sameRoles_fixed hrest
    obtain ⟨conditions, rfl, hq⟩ := sameRoles_separated (Q := fun _ _ => True) (fun ha => by
      obtain ⟨c', rfl⟩ := sameRoles_condition ha
      exact ⟨c', rfl, trivial⟩) hw
    refine ⟨⟨columns, tables, conditions⟩, ?_, hcomplete _⟩
    have hne : conditions ≠ [] := by
      intro hnil
      rw [hnil] at hq
      exact hws (List.forall₂_nil_right_iff.mp hq)
    simp only [selection, hne, if_false]

theorem sameRoles_definition {d : Definition} (h : SameRoles us (definition d)) :
    ∃ d', us = definition d' ∧ (d.Complete → d'.Complete) := by
  cases d with
  | columns titles =>
    obtain ⟨before, rfl, hbefore⟩ := sameRoles_closed h
    obtain ⟨later, rfl, hlater⟩ := sameRoles_fixed hbefore
    obtain ⟨titles', rfl, hne⟩ := sameRoles_names hlater
    exact ⟨.columns titles', rfl, hne⟩
  | query q =>
    obtain ⟨later, rfl, hlater⟩ := sameRoles_fixed h
    obtain ⟨q', rfl, hcomplete⟩ := sameRoles_selection hlater
    exact ⟨.query q', rfl, hcomplete⟩

theorem sameRoles_words {statement : Statement} (h : SameRoles us statement.words) :
    ∃ other : Statement, us = other.words ∧ (statement.Complete → other.Complete) := by
  obtain ⟨before, rfl, hbefore⟩ := sameRoles_closed h
  cases statement with
  | create n d =>
    obtain ⟨after, rfl, hafter⟩ := sameRoles_fixed hbefore
    obtain ⟨named, rfl, hnamed⟩ := sameRoles_fixed hafter
    obtain ⟨n', body, rfl, hbody⟩ := sameRoles_name hnamed
    obtain ⟨d', rfl, hcomplete⟩ := sameRoles_definition hbody
    exact ⟨.create n' d', rfl, hcomplete⟩
  | insert n rows =>
    obtain ⟨after, rfl, hafter⟩ := sameRoles_fixed hbefore
    obtain ⟨named, rfl, hnamed⟩ := sameRoles_fixed hafter
    obtain ⟨n', body, rfl, hbody⟩ := sameRoles_name hnamed
    obtain ⟨later, rfl, hlater⟩ := sameRoles_fixed hbody
    obtain ⟨rows', rfl, hq⟩ := sameRoles_separated (Q := Eq)
      (fun ha => ⟨_, sameRoles_row ha, rfl⟩) hlater
    rw [List.forall₂_eq_eq_eq] at hq
    exact ⟨.insert n' rows', rfl, hq ▸ id⟩
  | load n =>
    obtain ⟨n', rfl⟩ := sameRoles_verb hbefore
    exact ⟨.load n', rfl, id⟩
  | store n =>
    obtain ⟨n', rfl⟩ := sameRoles_verb hbefore
    exact ⟨.store n', rfl, id⟩
  | print n =>
    obtain ⟨n', rfl⟩ := sameRoles_verb hbefore
    exact ⟨.print n', rfl, id⟩
  | select q =>
    obtain ⟨q', rfl, hcomplete⟩ := sameRoles_selection hbefore
    exact ⟨.select q', rfl, hcomplete⟩
  | exit =>
    obtain ⟨w', rest, rfl, hw, hrest⟩ := sameRoles_cons hbefore
    rw [eq_of_role (by simp) hw, sameRoles_nil hrest]
    exact ⟨.exit, rfl, id⟩

/-- Other names in a sentence, spelled as they may be, make a sentence in which all else is read as
before. -/
theorem sentence_of_roles {statement : Statement} {kinds' : List TokenKind}
    (h : Sentence kinds statement) (hus : SameRoles us statement.words) (hs : Spelled us kinds') :
    ∃ other : Statement, other.words = us ∧ Sentence kinds' other := by
  obtain ⟨hcomplete, -⟩ := sentence_iff.mp h
  obtain ⟨other, rfl, hother⟩ := sameRoles_words hus
  exact ⟨other, rfl, sentence_iff.mpr ⟨hother hcomplete, hs⟩⟩

end Word

end TableShell
