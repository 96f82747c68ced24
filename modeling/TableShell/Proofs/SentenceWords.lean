import Mathlib.Data.List.Forall2
import TableShell.Statement.Grammar

namespace TableShell

open Grammar

inductive Word
  | fixed (kind : TokenKind)
  | name (name : String)
  | literal (value : String)
  | leave
  deriving DecidableEq, Repr

namespace Word

inductive Spells : Word → TokenKind → Prop
  | fixed (kind : TokenKind) : Spells (.fixed kind) kind
  | identifier (name : String) : Spells (.name name) (.identifier name)
  | keyword (k : Keyword) : Spells (.name k.text) (.keyword k)
  | literal (value : String) : Spells (.literal (Text.trim value)) (.literal value)
  | exit : Spells .leave (.keyword .exit)
  | quit : Spells .leave (.keyword .quit)

def separated {α : Type} (separator : TokenKind) (item : α → List Word) : List α → List Word
  | [] => []
  | [a] => item a
  | a :: b :: rest => item a ++ .fixed separator :: separated separator item (b :: rest)

def names (ns : List String) : List Word := separated .comma (fun n => [name n]) ns

def row (cells : List String) : List Word :=
  .fixed .leftParen :: separated .comma (fun v => [literal v]) cells ++ [.fixed .rightParen]

def condition : Condition → List Word
  | ⟨column, c, .literal value⟩ => [name column, .fixed (.comparison c), literal value]
  | ⟨column, c, .column other⟩ => [name column, .fixed (.comparison c), name other]

def selection (q : Query) : List Word :=
  .fixed (.keyword .select) :: names q.columns ++ .fixed (.keyword .from) :: names q.tables ++
    if q.conditions = [] then []
    else .fixed (.keyword .where) :: separated (.keyword .and) condition q.conditions

def definition : Definition → List Word
  | .columns titles => .fixed .leftParen :: names titles ++ [.fixed .rightParen]
  | .query q => .fixed (.keyword .as) :: selection q

end Word

open Word in
def Statement.said : Statement → List Word
  | create n d => .fixed (.keyword .create) :: .fixed (.keyword .table) :: name n :: definition d
  | insert n rows =>
    .fixed (.keyword .insert) :: .fixed (.keyword .into) :: name n ::
      .fixed (.keyword .values) :: separated .comma row rows
  | load n => [.fixed (.keyword .load), name n]
  | store n => [.fixed (.keyword .store), name n]
  | print n => [.fixed (.keyword .print), name n]
  | select q => selection q
  | exit => [leave]

def Statement.words (statement : Statement) : List Word := statement.said ++ [.fixed .semicolon]

def Query.Complete (q : Query) : Prop := q.columns ≠ [] ∧ q.tables ≠ []

def Definition.Complete : Definition → Prop
  | columns titles => titles ≠ []
  | query q => q.Complete

def Statement.Complete : Statement → Prop
  | create _ d => d.Complete
  | insert _ rows => rows ≠ [] ∧ ∀ row ∈ rows, row ≠ []
  | select q => q.Complete
  | _ => True

namespace Word

abbrev Spelled : List Word → List TokenKind → Prop := List.Forall₂ Spells

variable {ws vs : List Word} {kinds : List TokenKind} {separator : TokenKind}

theorem spelled_append :
    Spelled (ws ++ vs) kinds ↔
      ∃ before later, kinds = before ++ later ∧ Spelled ws before ∧ Spelled vs later := by
  constructor
  · intro h
    induction ws generalizing kinds with
    | nil => exact ⟨[], kinds, rfl, .nil, h⟩
    | cons w ws ih =>
      cases h with
      | cons hw hrest =>
        obtain ⟨before, later, rfl, hbefore, hlater⟩ := ih hrest
        exact ⟨_ :: before, later, rfl, .cons hw hbefore, hlater⟩
  · rintro ⟨before, later, rfl, hbefore, hlater⟩
    exact List.rel_append hbefore hlater

theorem spelled_fixed {kind : TokenKind} :
    Spelled (.fixed kind :: ws) kinds ↔ ∃ later, kinds = kind :: later ∧ Spelled ws later := by
  constructor
  · intro h
    cases h with
    | cons hw hrest =>
      cases hw
      exact ⟨_, rfl, hrest⟩
  · rintro ⟨later, rfl, h⟩
    exact .cons (.fixed kind) h

theorem exists_spells_of_mem {w : Word} (h : Spelled ws kinds) (hw : w ∈ ws) :
    ∃ kind ∈ kinds, w.Spells kind := by
  induction h with
  | nil => cases hw
  | cons hs hrest ih =>
    obtain rfl | hw := List.mem_cons.mp hw
    · exact ⟨_, List.mem_cons_self, hs⟩
    · obtain ⟨kind, hm, hs⟩ := ih hw
      exact ⟨kind, List.mem_cons_of_mem _ hm, hs⟩

theorem exists_name_of_mem {n : String} (h : Spelled ws kinds) (hn : .name n ∈ ws) :
    ∃ kind ∈ kinds, kind.name? = some n := by
  obtain ⟨kind, hk, hs⟩ := exists_spells_of_mem h hn
  exact ⟨kind, hk, by cases hs <;> rfl⟩

theorem exists_literal_of_mem {v : String} (h : Spelled ws kinds) (hv : .literal v ∈ ws) :
    ∃ kind ∈ kinds, ∃ value, kind.literal? = some value ∧ v = Text.trim value := by
  obtain ⟨kind, hk, hs⟩ := exists_spells_of_mem h hv
  cases hs with
  | literal value => exact ⟨_, hk, value, rfl, rfl⟩

theorem mem_separated {α : Type} {item : α → List Word} {as : List α} {a : α} {w : Word}
    (ha : a ∈ as) (hw : w ∈ item a) : w ∈ separated separator item as := by
  induction as with
  | nil => cases ha
  | cons first rest ih =>
    cases rest with
    | nil =>
      obtain rfl := List.mem_singleton.mp ha
      exact hw
    | cons next rest =>
      obtain rfl | ha := List.mem_cons.mp ha
      · exact List.mem_append_left _ hw
      · exact List.mem_append_right _ (List.mem_cons_of_mem _ (ih ha))

theorem name_mem_names {n : String} {ns : List String} (h : n ∈ ns) : name n ∈ names ns := by
  apply mem_separated h
  exact List.mem_cons_self

theorem literal_mem_row {v : String} {cells : List String} (h : v ∈ cells) :
    literal v ∈ row cells := by
  apply List.mem_append_left
  apply List.mem_cons_of_mem
  apply mem_separated h
  exact List.mem_cons_self

theorem literal_mem_insert {table v : String} {rows : List (List String)} {cells : List String}
    (hrow : cells ∈ rows) (hcell : v ∈ cells) :
    literal v ∈ (Statement.insert table rows).words := by
  have hrows : literal v ∈ separated .comma row rows :=
    mem_separated hrow (literal_mem_row hcell)
  simp [Statement.words, Statement.said, hrows]

theorem spelled_nil : Spelled [] kinds ↔ kinds = [] := List.forall₂_nil_left_iff

theorem name_iff {n : String} : Name kinds n ↔ Spelled [name n] kinds := by
  constructor
  · intro h
    cases h with
    | identifier => exact .cons (.identifier n) .nil
    | keyword k => exact .cons (.keyword k) .nil
  · intro h
    cases h with
    | cons hw hrest =>
      cases hrest
      cases hw
      · exact .identifier n
      · exact .keyword _

theorem literal_iff {v : String} : Literal kinds v ↔ Spelled [literal v] kinds := by
  constructor
  · intro h
    cases h with
    | literal value => exact .cons (.literal value) .nil
  · intro h
    cases h with
    | cons hw hrest =>
      cases hrest
      cases hw
      exact .literal _

theorem spelled_name {n : String} :
    Spelled (name n :: ws) kinds ↔
      ∃ before later, kinds = before ++ later ∧ Name before n ∧ Spelled ws later := by
  simp only [name_iff]
  rw [← List.singleton_append]
  exact spelled_append

theorem separated_iff {α : Type} {Item : Phrase α} (P : α → Prop) (item : α → List Word)
    (hitem : ∀ {kinds a}, Item kinds a ↔ P a ∧ Spelled (item a) kinds) {as : List α} :
    Separated separator Item kinds as ↔
      as ≠ [] ∧ (∀ a ∈ as, P a) ∧ Spelled (separated separator item as) kinds := by
  constructor
  · intro h
    induction h with
    | one h =>
      obtain ⟨hp, hs⟩ := hitem.mp h
      exact ⟨by simp, by simpa using hp, hs⟩
    | @more kinds later a as h items ih =>
      obtain ⟨hp, hs⟩ := hitem.mp h
      obtain ⟨hne, hall, hlater⟩ := ih
      refine ⟨by simp, by simpa using ⟨hp, hall⟩, ?_⟩
      obtain ⟨b, rest, rfl⟩ := List.exists_cons_of_ne_nil hne
      exact List.rel_append hs (.cons (.fixed separator) hlater)
  · rintro ⟨hne, hall, hs⟩
    induction as generalizing kinds with
    | nil => exact absurd rfl hne
    | cons a rest ih =>
      obtain ⟨hp, hall⟩ := List.forall_mem_cons.mp hall
      cases rest with
      | nil => exact .one (hitem.mpr ⟨hp, hs⟩)
      | cons b rest =>
        obtain ⟨before, after, rfl, ha, hafter⟩ := spelled_append.mp hs
        obtain ⟨later, rfl, hlater⟩ := spelled_fixed.mp hafter
        exact .more (hitem.mpr ⟨hp, ha⟩) (ih (List.cons_ne_nil b rest) hall hlater)

theorem names_iff {ns : List String} :
    Separated .comma Name kinds ns ↔ ns ≠ [] ∧ Spelled (names ns) kinds := by
  rw [separated_iff (fun _ => True) (fun n => [name n]) (by simp [name_iff])]
  simp [names]

theorem spelled_closed {kind : TokenKind} :
    Spelled (ws ++ [.fixed kind]) kinds ↔
      ∃ before, kinds = before ++ [kind] ∧ Spelled ws before := by
  simp [spelled_append, spelled_fixed]

theorem row_iff {cells : List String} :
    RowPhrase kinds cells ↔ cells ≠ [] ∧ Spelled (row cells) kinds := by
  have hcells : ∀ {kinds}, Separated .comma Literal kinds cells ↔
      cells ≠ [] ∧ Spelled (separated .comma (fun v => [literal v]) cells) kinds := by
    intro kinds
    rw [separated_iff (fun _ => True) (fun v => [literal v]) (by simp [literal_iff])]
    simp
  constructor
  · rintro ⟨hc⟩
    obtain ⟨hne, hs⟩ := hcells.mp hc
    exact ⟨hne, spelled_closed.mpr ⟨_, rfl, .cons (.fixed _) hs⟩⟩
  · rintro ⟨hne, hs⟩
    obtain ⟨before, rfl, hbefore⟩ := spelled_closed.mp hs
    obtain ⟨later, rfl, hlater⟩ := spelled_fixed.mp hbefore
    exact .cells (hcells.mpr ⟨hne, hlater⟩)

theorem condition_iff {c : Condition} : Cond kinds c ↔ Spelled (condition c) kinds := by
  constructor
  · intro h
    cases h with
    | literal c hc hv =>
      exact spelled_name.mpr ⟨_, _, rfl, hc, .cons (.fixed _) (literal_iff.mp hv)⟩
    | column c hc ho =>
      exact spelled_name.mpr ⟨_, _, rfl, hc, .cons (.fixed _) (name_iff.mp ho)⟩
  · obtain ⟨column, comparison, operand⟩ := c
    intro h
    cases operand with
    | literal value =>
      obtain ⟨before, after, rfl, hn, hafter⟩ := spelled_name.mp h
      obtain ⟨later, rfl, hlater⟩ := spelled_fixed.mp hafter
      exact .literal _ hn (literal_iff.mpr hlater)
    | column other =>
      obtain ⟨before, after, rfl, hn, hafter⟩ := spelled_name.mp h
      obtain ⟨later, rfl, hlater⟩ := spelled_fixed.mp hafter
      exact .column _ hn (name_iff.mpr hlater)

theorem conditions_iff {conditions : List Condition} :
    Separated (.keyword .and) Cond kinds conditions ↔
      conditions ≠ [] ∧ Spelled (separated (.keyword .and) condition conditions) kinds := by
  rw [separated_iff (fun _ => True) condition (by simp [condition_iff])]
  simp

theorem selection_iff {q : Query} :
    Selection kinds q ↔ q.Complete ∧ Spelled (selection q) kinds := by
  obtain ⟨columns, tables, conditions⟩ := q
  constructor
  · intro h
    cases h with
    | all hc ht =>
      obtain ⟨hcs, hc⟩ := names_iff.mp hc
      obtain ⟨hts, ht⟩ := names_iff.mp ht
      refine ⟨⟨hcs, hts⟩, ?_⟩
      simp only [selection, if_true, List.append_nil]
      exact List.rel_append (.cons (.fixed _) hc) (.cons (.fixed _) ht)
    | filtered hc ht hw =>
      obtain ⟨hcs, hc⟩ := names_iff.mp hc
      obtain ⟨hts, ht⟩ := names_iff.mp ht
      obtain ⟨hws, hw⟩ := conditions_iff.mp hw
      refine ⟨⟨hcs, hts⟩, ?_⟩
      simp only [selection, hws, if_false]
      exact List.rel_append (List.rel_append (.cons (.fixed _) hc) (.cons (.fixed _) ht))
        (.cons (.fixed _) hw)
  · rintro ⟨⟨hcs, hts⟩, hs⟩
    obtain ⟨listed, rest, rfl, hlisted, hrest⟩ := spelled_append.mp hs
    obtain ⟨head, tail, rfl, hhead, htail⟩ := spelled_append.mp hlisted
    obtain ⟨cs, rfl, hc⟩ := spelled_fixed.mp hhead
    obtain ⟨ts, rfl, ht⟩ := spelled_fixed.mp htail
    have hc := names_iff.mpr ⟨hcs, hc⟩
    have ht := names_iff.mpr ⟨hts, ht⟩
    by_cases hws : conditions = []
    · simp only [hws, if_true, spelled_nil] at hrest
      rw [hrest, List.append_nil, hws]
      exact .all hc ht
    · simp only [hws, if_false] at hrest
      obtain ⟨ws, rfl, hw⟩ := spelled_fixed.mp hrest
      exact .filtered hc ht (conditions_iff.mpr ⟨hws, hw⟩)

theorem definition_iff {d : Definition} :
    TableDef kinds d ↔ d.Complete ∧ Spelled (definition d) kinds := by
  constructor
  · intro h
    cases h with
    | columns ht =>
      obtain ⟨hne, hs⟩ := names_iff.mp ht
      exact ⟨hne, spelled_closed.mpr ⟨_, rfl, .cons (.fixed _) hs⟩⟩
    | query hq =>
      obtain ⟨hcomplete, hs⟩ := selection_iff.mp hq
      exact ⟨hcomplete, .cons (.fixed _) hs⟩
  · rintro ⟨hcomplete, hs⟩
    cases d with
    | columns titles =>
      obtain ⟨before, rfl, hbefore⟩ := spelled_closed.mp hs
      obtain ⟨later, rfl, hlater⟩ := spelled_fixed.mp hbefore
      exact .columns (names_iff.mpr ⟨hcomplete, hlater⟩)
    | query q =>
      obtain ⟨later, rfl, hlater⟩ := spelled_fixed.mp hs
      exact .query (selection_iff.mpr ⟨hcomplete, hlater⟩)

theorem rows_iff {rows : List (List String)} :
    Separated .comma RowPhrase kinds rows ↔
      (rows ≠ [] ∧ ∀ row ∈ rows, row ≠ []) ∧ Spelled (separated .comma row rows) kinds := by
  rw [separated_iff (fun cells => cells ≠ []) row row_iff, and_assoc]

theorem sentence_iff {statement : Statement} :
    Sentence kinds statement ↔ statement.Complete ∧ Spelled statement.words kinds := by
  constructor
  · intro h
    cases h with
    | create hn hd =>
      obtain ⟨hcomplete, hs⟩ := definition_iff.mp hd
      refine ⟨hcomplete, spelled_closed.mpr ⟨_, rfl, .cons (.fixed _) (.cons (.fixed _) ?_)⟩⟩
      exact spelled_name.mpr ⟨_, _, rfl, hn, hs⟩
    | insert hn hr =>
      obtain ⟨hcomplete, hs⟩ := rows_iff.mp hr
      refine ⟨hcomplete, spelled_closed.mpr ⟨_, rfl, .cons (.fixed _) (.cons (.fixed _) ?_)⟩⟩
      exact spelled_name.mpr ⟨_, _, rfl, hn, .cons (.fixed _) hs⟩
    | load hn | store hn | print hn =>
      exact ⟨trivial, spelled_closed.mpr ⟨_, rfl, .cons (.fixed _) (name_iff.mp hn)⟩⟩
    | select hq =>
      obtain ⟨hcomplete, hs⟩ := selection_iff.mp hq
      exact ⟨hcomplete, spelled_closed.mpr ⟨_, rfl, hs⟩⟩
    | exit => exact ⟨trivial, .cons .exit (.cons (.fixed _) .nil)⟩
    | quit => exact ⟨trivial, .cons .quit (.cons (.fixed _) .nil)⟩
  · rintro ⟨hcomplete, hs⟩
    obtain ⟨before, rfl, hbefore⟩ := spelled_closed.mp hs
    cases statement with
    | create n d =>
      obtain ⟨after, rfl, hafter⟩ := spelled_fixed.mp hbefore
      obtain ⟨named, rfl, hnamed⟩ := spelled_fixed.mp hafter
      obtain ⟨n, body, rfl, hn, hbody⟩ := spelled_name.mp hnamed
      exact .create hn (definition_iff.mpr ⟨hcomplete, hbody⟩)
    | insert n rows =>
      obtain ⟨after, rfl, hafter⟩ := spelled_fixed.mp hbefore
      obtain ⟨named, rfl, hnamed⟩ := spelled_fixed.mp hafter
      obtain ⟨n, body, rfl, hn, hbody⟩ := spelled_name.mp hnamed
      obtain ⟨later, rfl, hlater⟩ := spelled_fixed.mp hbody
      exact .insert hn (rows_iff.mpr ⟨hcomplete, hlater⟩)
    | load n =>
      obtain ⟨later, rfl, hlater⟩ := spelled_fixed.mp hbefore
      exact .load (name_iff.mpr hlater)
    | store n =>
      obtain ⟨later, rfl, hlater⟩ := spelled_fixed.mp hbefore
      exact .store (name_iff.mpr hlater)
    | print n =>
      obtain ⟨later, rfl, hlater⟩ := spelled_fixed.mp hbefore
      exact .print (name_iff.mpr hlater)
    | select q => exact .select (selection_iff.mpr ⟨hcomplete, hbefore⟩)
    | exit =>
      cases hbefore with
      | cons hw hrest =>
        cases hrest
        cases hw
        · exact .exit
        · exact .quit

end Word

end TableShell
