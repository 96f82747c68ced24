import TableShell.Proofs.Sentences

namespace TableShell

open Grammar

namespace Grammar

/-- A list that has been read to where an item has to follow. -/
inductive Begun {α : Type} (separator : TokenKind) (Item : Phrase α) : Phrase (List α)
  | nothing : Begun separator Item [] []
  | items {kinds : List TokenKind} {as : List α} (h : Separated separator Item kinds as) :
    Begun separator Item (kinds ++ [separator]) as

theorem Separated.snoc {α : Type} {separator : TokenKind} {Item : Phrase α}
    {kinds later : List TokenKind} {as : List α} {a : α} (h : Separated separator Item kinds as)
    (item : Item later a) :
    Separated separator Item (kinds ++ separator :: later) (as ++ [a]) := by
  induction h with
  | one first => exact .more first (.one item)
  | more first items ih =>
    rw [List.append_assoc]
    exact .more first ih

theorem Begun.cons {α : Type} {separator : TokenKind} {Item : Phrase α}
    {kinds later : List TokenKind} {as : List α} {a : α}
    (h : Begun separator Item kinds as.reverse) (item : Item later a) :
    Separated separator Item (kinds ++ later) (a :: as).reverse := by
  rw [List.reverse_cons]
  generalize as.reverse = before at h
  cases h with
  | nothing => exact .one item
  | items h =>
    rw [List.append_assoc]
    exact h.snoc item

theorem name_of_name? {kind : TokenKind} {name : String} (h : kind.name? = some name) :
    Name [kind] name := by
  cases kind <;> cases h
  · exact .keyword _
  · exact .identifier _

theorem literal_of_literal? {kind : TokenKind} {value : String} (h : kind.literal? = some value) :
    Literal [kind] (Text.trim value) := by
  cases kind <;> cases h
  exact .literal _

end Grammar

inductive Purpose.Reads : Purpose → List TokenKind → Prop
  | answer : Reads .answer []
  | define {kinds : List TokenKind} {name : String} (hn : Name kinds name) :
    Reads (.define name) (.keyword .create :: .keyword .table :: kinds ++ [.keyword .as])

inductive Purpose.Selects (purpose : Purpose) (columns tables : List String) :
    List TokenKind → Prop
  | tables {before cs ts : List TokenKind} (hp : purpose.Reads before)
      (hc : Separated .comma Name cs columns.reverse)
      (ht : Separated .comma Name ts tables.reverse) :
    Selects purpose columns tables (before ++ .keyword .select :: cs ++ .keyword .from :: ts)

theorem Purpose.Reads.sentence {purpose : Purpose} {before kinds : List TokenKind} {q : Query}
    (hp : purpose.Reads before) (hq : Selection kinds q) :
    Sentence (before ++ kinds ++ [.semicolon]) (purpose.statement q) := by
  cases hp with
  | answer => exact .select hq
  | define hn =>
    have hsentence := Sentence.create hn (.query hq)
    simpa [Purpose.statement] using hsentence

namespace Purpose.Selects

variable {purpose : Purpose} {columns tables : List String} {before : List TokenKind}

theorem sentence (h : purpose.Selects columns tables before) :
    Sentence (before ++ [.semicolon]) (purpose.statement (Draft.query columns tables [])) := by
  obtain ⟨hp, hc, ht⟩ := h
  simpa [Draft.query] using hp.sentence (.all hc ht)

theorem sentence_filtered {ws : List TokenKind} {conditions : List Condition}
    (h : purpose.Selects columns tables before)
    (hw : Separated (.keyword .and) Cond ws conditions.reverse) :
    Sentence (before ++ .keyword .where :: ws ++ [.semicolon])
      (purpose.statement (Draft.query columns tables conditions)) := by
  obtain ⟨hp, hc, ht⟩ := h
  simpa [Draft.query] using hp.sentence (.filtered hc ht hw)

end Purpose.Selects

def TableVerb.keyword : TableVerb → Keyword
  | load => .load
  | store => .store
  | print => .print

namespace Draft

/-- The tokens that lead to a draft begin a sentence so. -/
inductive Reads : Draft → List TokenKind → Prop
  | empty : Reads .empty []
  | create : Reads .create [.keyword .create]
  | createTable : Reads .createTable [.keyword .create, .keyword .table]
  | createNamed {n : List TokenKind} {name : String} (hn : Name n name) :
    Reads (.createNamed name) (.keyword .create :: .keyword .table :: n)
  | createColumn {n ts : List TokenKind} {name : String} {titles : List String} (hn : Name n name)
      (ht : Begun .comma Name ts titles.reverse) :
    Reads (.createColumn name titles)
      (.keyword .create :: .keyword .table :: n ++ .leftParen :: ts)
  | createAfterColumn {n ts : List TokenKind} {name : String} {titles : List String}
      (hn : Name n name) (ht : Separated .comma Name ts titles.reverse) :
    Reads (.createAfterColumn name titles)
      (.keyword .create :: .keyword .table :: n ++ .leftParen :: ts)
  | createAs {before : List TokenKind} {name : String} (hp : (Purpose.define name).Reads before) :
    Reads (.createAs name) before
  | insert : Reads .insert [.keyword .insert]
  | insertInto : Reads .insertInto [.keyword .insert, .keyword .into]
  | insertNamed {n : List TokenKind} {table : String} (hn : Name n table) :
    Reads (.insertNamed table) (.keyword .insert :: .keyword .into :: n)
  | insertRow {n rs : List TokenKind} {table : String} {rows : List (List String)}
      (hn : Name n table) (hr : Begun .comma RowPhrase rs rows.reverse) :
    Reads (.insertRow table rows)
      (.keyword .insert :: .keyword .into :: n ++ .keyword .values :: rs)
  | insertCell {n rs cs : List TokenKind} {table : String} {rows : List (List String)}
      {cells : List String} (hn : Name n table) (hr : Begun .comma RowPhrase rs rows.reverse)
      (hc : Begun .comma Literal cs cells.reverse) :
    Reads (.insertCell table rows cells)
      (.keyword .insert :: .keyword .into :: n ++ .keyword .values :: rs ++ .leftParen :: cs)
  | insertAfterCell {n rs cs : List TokenKind} {table : String} {rows : List (List String)}
      {cells : List String} (hn : Name n table) (hr : Begun .comma RowPhrase rs rows.reverse)
      (hc : Separated .comma Literal cs cells.reverse) :
    Reads (.insertAfterCell table rows cells)
      (.keyword .insert :: .keyword .into :: n ++ .keyword .values :: rs ++ .leftParen :: cs)
  | insertAfterRow {n rs : List TokenKind} {table : String} {rows : List (List String)}
      (hn : Name n table) (hr : Separated .comma RowPhrase rs rows.reverse) :
    Reads (.insertAfterRow table rows)
      (.keyword .insert :: .keyword .into :: n ++ .keyword .values :: rs)
  | named (verb : TableVerb) : Reads (.named verb) [.keyword verb.keyword]
  | selectColumn {before cs : List TokenKind} {purpose : Purpose} {columns : List String}
      (hp : purpose.Reads before) (hc : Begun .comma Name cs columns.reverse) :
    Reads (.selectColumn purpose columns) (before ++ .keyword .select :: cs)
  | selectAfterColumn {before cs : List TokenKind} {purpose : Purpose} {columns : List String}
      (hp : purpose.Reads before) (hc : Separated .comma Name cs columns.reverse) :
    Reads (.selectAfterColumn purpose columns) (before ++ .keyword .select :: cs)
  | selectTable {before cs ts : List TokenKind} {purpose : Purpose} {columns tables : List String}
      (hp : purpose.Reads before) (hc : Separated .comma Name cs columns.reverse)
      (ht : Begun .comma Name ts tables.reverse) :
    Reads (.selectTable purpose columns tables)
      (before ++ .keyword .select :: cs ++ .keyword .from :: ts)
  | selectAfterTable {before : List TokenKind} {purpose : Purpose} {columns tables : List String}
      (hs : purpose.Selects columns tables before) :
    Reads (.selectAfterTable purpose columns tables) before
  | condition {before ws : List TokenKind} {purpose : Purpose} {columns tables : List String}
      {conditions : List Condition} (hs : purpose.Selects columns tables before)
      (hw : Begun (.keyword .and) Cond ws conditions.reverse) :
    Reads (.condition purpose columns tables conditions) (before ++ .keyword .where :: ws)
  | conditionColumn {before ws n : List TokenKind} {purpose : Purpose}
      {columns tables : List String} {conditions : List Condition} {column : String}
      (hs : purpose.Selects columns tables before)
      (hw : Begun (.keyword .and) Cond ws conditions.reverse) (hn : Name n column) :
    Reads (.conditionColumn purpose columns tables conditions column)
      (before ++ .keyword .where :: ws ++ n)
  | conditionOperand {before ws n : List TokenKind} {purpose : Purpose}
      {columns tables : List String} {conditions : List Condition} {column : String}
      (hs : purpose.Selects columns tables before)
      (hw : Begun (.keyword .and) Cond ws conditions.reverse) (hn : Name n column)
      (c : Comparison) :
    Reads (.conditionOperand purpose columns tables conditions column c)
      (before ++ .keyword .where :: ws ++ n ++ [.comparison c])
  | afterCondition {before ws : List TokenKind} {purpose : Purpose} {columns tables : List String}
      {conditions : List Condition} (hs : purpose.Selects columns tables before)
      (hw : Separated (.keyword .and) Cond ws conditions.reverse) :
    Reads (.afterCondition purpose columns tables conditions) (before ++ .keyword .where :: ws)
  | complete {before : List TokenKind} {statement : Statement}
      (h : Sentence (before ++ [.semicolon]) statement) :
    Reads (.complete statement) before

namespace Reads

variable {draft draft' : Draft} {kind : TokenKind} {kinds : List TokenKind} {statement : Statement}

theorem shift (h : draft.Reads kinds) (hs : draft.step kind = .shift draft') :
    draft'.Reads (kinds ++ [kind]) := by
  cases h with
  | empty =>
    rw [step, start.eq_def] at hs
    split at hs <;> cases hs
    · exact .create
    · exact .insert
    · exact .named .load
    · exact .named .store
    · exact .named .print
    · exact .selectColumn .answer .nothing
    · exact .complete .exit
    · exact .complete .quit
  | create =>
    obtain ⟨rfl, rfl⟩ := on_eq_shift hs
    exact .createTable
  | createTable =>
    obtain ⟨name, hn, rfl⟩ := onSome_eq_shift hs
    exact .createNamed (name_of_name? hn)
  | createNamed hn =>
    rw [step] at hs
    split at hs
    · rename_i hk
      cases hs
      rw [hk]
      exact .createColumn hn .nothing
    · obtain ⟨rfl, rfl⟩ := on_eq_shift hs
      exact .createAs (.define hn)
  | createColumn hn ht =>
    obtain ⟨title, htitle, rfl⟩ := onSome_eq_shift hs
    rw [List.append_assoc]
    exact .createAfterColumn hn (ht.cons (name_of_name? htitle))
  | createAfterColumn hn ht =>
    obtain ⟨rfl, rfl⟩ | hs := orComma_eq_shift hs
    · rw [List.append_assoc]
      exact .createColumn hn (.items ht)
    · obtain ⟨rfl, rfl⟩ := on_eq_shift hs
      rw [List.append_assoc]
      exact .complete (.create hn (.columns ht))
  | createAs hp =>
    obtain ⟨rfl, rfl⟩ := on_eq_shift hs
    exact .selectColumn hp .nothing
  | insert =>
    obtain ⟨rfl, rfl⟩ := on_eq_shift hs
    exact .insertInto
  | insertInto =>
    obtain ⟨table, hn, rfl⟩ := onSome_eq_shift hs
    exact .insertNamed (name_of_name? hn)
  | insertNamed hn =>
    obtain ⟨rfl, rfl⟩ := on_eq_shift hs
    exact .insertRow hn .nothing
  | insertRow hn hr =>
    obtain ⟨rfl, rfl⟩ := on_eq_shift hs
    exact .insertCell hn hr .nothing
  | insertCell hn hr hc =>
    obtain ⟨value, hv, rfl⟩ := onSome_eq_shift hs
    rw [List.append_assoc]
    exact .insertAfterCell hn hr (hc.cons (literal_of_literal? hv))
  | insertAfterCell hn hr hc =>
    obtain ⟨rfl, rfl⟩ | hs := orComma_eq_shift hs
    · rw [List.append_assoc]
      exact .insertCell hn hr (.items hc)
    · obtain ⟨rfl, rfl⟩ := on_eq_shift hs
      rw [List.append_assoc, List.append_assoc]
      exact .insertAfterRow hn (hr.cons (.cells hc))
  | insertAfterRow hn hr =>
    obtain ⟨rfl, rfl⟩ | hs := orComma_eq_shift hs
    · rw [List.append_assoc]
      exact .insertRow hn (.items hr)
    · exact absurd hs finishOn_ne_shift
  | named verb =>
    obtain ⟨name, hn, rfl⟩ := onSome_eq_shift hs
    have hname := name_of_name? hn
    cases verb with
    | load => exact .complete (.load hname)
    | store => exact .complete (.store hname)
    | print => exact .complete (.print hname)
  | selectColumn hp hc =>
    obtain ⟨column, hn, rfl⟩ := onSome_eq_shift hs
    rw [List.append_assoc]
    exact .selectAfterColumn hp (hc.cons (name_of_name? hn))
  | selectAfterColumn hp hc =>
    obtain ⟨rfl, rfl⟩ | hs := orComma_eq_shift hs
    · rw [List.append_assoc]
      exact .selectColumn hp (.items hc)
    · obtain ⟨rfl, rfl⟩ := on_eq_shift hs
      exact .selectTable hp hc .nothing
  | selectTable hp hc ht =>
    obtain ⟨table, hn, rfl⟩ := onSome_eq_shift hs
    rw [List.append_assoc]
    exact .selectAfterTable (.tables hp hc (ht.cons (name_of_name? hn)))
  | selectAfterTable hq =>
    obtain ⟨rfl, rfl⟩ | hs := orComma_eq_shift hs
    · obtain ⟨hp, hc, ht⟩ := hq
      rw [List.append_assoc]
      exact .selectTable hp hc (.items ht)
    · split at hs
      · rename_i hk
        cases hs
        rw [hk]
        exact .condition hq .nothing
      · exact absurd hs finishOn_ne_shift
  | condition hq hw =>
    obtain ⟨column, hn, rfl⟩ := onSome_eq_shift hs
    exact .conditionColumn hq hw (name_of_name? hn)
  | conditionColumn hq hw hn =>
    obtain ⟨c, hc, rfl⟩ := onSome_eq_shift hs
    cases kind <;> cases hc
    exact .conditionOperand hq hw hn c
  | conditionOperand hq hw hn c =>
    rw [step] at hs
    split at hs
    · rename_i value hv
      cases hs
      have hcond := Cond.literal c hn (literal_of_literal? hv)
      simpa using Reads.afterCondition hq (hw.cons hcond)
    · obtain ⟨other, ho, rfl⟩ := onSome_eq_shift hs
      have hcond := Cond.column c hn (name_of_name? ho)
      simpa using Reads.afterCondition hq (hw.cons hcond)
  | afterCondition hq hw =>
    rw [step] at hs
    split at hs
    · rename_i hk
      cases hs
      rw [hk, List.append_assoc]
      exact .condition hq (.items hw)
    · exact absurd hs finishOn_ne_shift
  | complete h => exact absurd hs finishOn_ne_shift

theorem reach (h : draft.Reads kinds) {later : List TokenKind}
    (hr : draft.reach later = some draft') : draft'.Reads (kinds ++ later) := by
  induction later generalizing draft kinds with
  | nil =>
    cases hr
    rwa [List.append_nil]
  | cons kind later ih =>
    obtain ⟨next, hstep, hnext⟩ := reach_cons_eq_some hr
    rw [List.append_cons]
    exact ih (h.shift hstep) hnext

theorem finish (h : draft.Reads kinds) (hs : draft.step kind = .finish statement) :
    kind = .semicolon ∧ Sentence (kinds ++ [kind]) statement ∨
      kind = .endOfInput ∧ draft = .empty := by
  obtain rfl | hend := closes_of_finish hs
  · refine .inl ⟨rfl, ?_⟩
    cases h with
    | insertAfterRow hn hr =>
      cases hs
      exact .insert hn hr
    | selectAfterTable hq =>
      cases hs
      exact hq.sentence
    | afterCondition hq hw =>
      cases hs
      exact hq.sentence_filtered hw
    | complete h =>
      cases hs
      exact h
    | _ => cases hs
  · exact .inr hend

end Reads

theorem sentence_of_reach {kinds : List TokenKind} {last : TokenKind} {draft : Draft}
    {statement : Statement} (hr : empty.reach kinds = some draft)
    (hs : draft.step last = .finish statement) :
    last = .semicolon ∧ Sentence (kinds ++ [last]) statement ∨
      last = .endOfInput ∧ kinds = [] ∧ statement = .exit := by
  obtain hsentence | ⟨rfl, rfl⟩ := (Reads.empty.reach hr).finish hs
  · exact .inl hsentence
  · refine .inr ⟨rfl, eq_nil_of_reach_empty hr, ?_⟩
    cases hs
    rfl

end Draft

end TableShell
