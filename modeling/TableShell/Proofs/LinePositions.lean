import Mathlib.Data.List.TakeWhile
import TableShell.Proofs.ScannedTokens

namespace TableShell

open Text

def slice? {α : Type} (as : List α) (start stop : Nat) : Option (List α) :=
  if start ≤ stop ∧ stop ≤ as.length then some ((as.drop start).take (stop - start)) else none

theorem slice?_of_le {α : Type} {as : List α} {start stop : Nat} (h : start ≤ stop)
    (hstop : stop ≤ as.length) :
    slice? as start stop = some ((as.drop start).take (stop - start)) :=
  if_pos ⟨h, hstop⟩

namespace Cursor

section Line

variable (chars : List Char) (pos : Nat)

/-- The first symbol at the start of a text, with its width, where these widths are tried in turn. -/
def symbol? (rest : List Char) : List Nat → Option (Option (Comparison × Nat))
  | [] => some none
  | width :: widths =>
    if rest.length < width then symbol? rest widths
    else do
      match Comparison.ofSymbol? (String.ofList (← slice? rest 0 width)) with
      | some comparison => return some (comparison, width)
      | none => symbol? rest widths

def relation? : Option (Lexeme × Nat) := do
  let rest ← slice? chars pos chars.length
  match ← symbol? rest [2, 1] with
  | some (comparison, width) => return (.ok (.comparison comparison), pos + width)
  | none => return (.error (.unrecognized (← rest[0]?)), pos + 1)

def literal? : Option (Lexeme × Nat) := do
  let start := pos + 1
  let rest ← slice? chars start chars.length
  match rest.findIdx? (· == '\x27') with
  | none => return (.error .unendedLiteral, chars.length)
  | some length =>
    let value := String.ofList (← slice? chars start (start + length))
    return (if value.contains ',' then .error (.commaInLiteral value) else .ok (.literal value),
      start + length + 1)

def wordEnd (pos : Nat) : Nat :=
  match _h : chars[pos]? with
  | some c => if isWordChar c then wordEnd (pos + 1) else pos
  | none => pos
termination_by chars.length - pos
decreasing_by
  have hlt := (List.getElem?_eq_some_iff.mp _h).1
  omega

def word? : Option (Lexeme × Nat) := do
  let stop := wordEnd chars pos
  return (.ok (.ofWord (String.ofList (← slice? chars pos stop))), stop)

def lexeme? (c : Char) : Option (Lexeme × Nat) :=
  if c = '(' then some (.ok .leftParen, pos + 1)
  else if c = ')' then some (.ok .rightParen, pos + 1)
  else if c = ',' then some (.ok .comma, pos + 1)
  else if c = ';' then some (.ok .semicolon, pos + 1)
  else if c = '=' ∨ c = '!' ∨ c = '<' ∨ c = '>' then relation? chars pos
  else if c = '\x27' then literal? chars pos
  else if isLetter c then word? chars pos
  else some (.error (.unrecognized c), pos + 1)

def closeComment? (pos : Nat) : Option (Bool × Nat) :=
  if chars.length < pos then none
  else match _h : chars[pos]? with
    | none => some (false, pos)
    | some c =>
      if c = '*' ∧ chars[pos + 1]? = some '/' then some (true, pos + 2)
      else closeComment? (pos + 1)
termination_by chars.length - pos
decreasing_by
  have hlt := (List.getElem?_eq_some_iff.mp _h).1
  omega

end Line

/-- What ends the search for a lexeme. A line may end inside a block comment. -/
inductive Stop
  | lexeme (found : Lexeme)
  | lineEnd (opened : Bool)

/-- What is scanned where a search has stopped, with what is scanned after it. -/
def Stop.before : Stop → List Lexeme × Bool → List Lexeme × Bool
  | .lexeme found, later => (found :: later.1, later.2)
  | .lineEnd opened, _ => ([], opened)

theorem le_of_closeComment? {chars : List Char} {pos stop : Nat} {closed : Bool}
    (h : closeComment? chars pos = some (closed, stop)) : pos ≤ stop := by
  fun_induction closeComment? chars pos with
  | case1 => cases h
  | case2 =>
    cases h
    exact Nat.le_refl _
  | case3 =>
    cases h
    exact Nat.le_add_right _ 2
  | case4 _ _ _ _ _ ih => exact Nat.le_of_succ_le (ih h)

def find? (chars : List Char) (pos : Nat) : Option (Stop × Nat) :=
  if chars.length < pos then none
  else match _h : chars[pos]? with
    | none => some (.lineEnd false, pos)
    | some c =>
      let next := chars[pos + 1]?
      if isBlank c then find? chars (pos + 1)
      else if c = '/' ∧ next = some '*' then
        match _hc : closeComment? chars (pos + 2) with
        | none => none
        | some (false, stop) => some (.lineEnd true, stop)
        | some (true, stop) => find? chars stop
      else if c = '/' ∧ next = some '/' ∨ c = '-' ∧ next = some '-' then
        some (.lineEnd false, chars.length)
      else (lexeme? chars pos c).map fun found => (.lexeme found.1, found.2)
termination_by chars.length - pos
decreasing_by
  · have hlt := (List.getElem?_eq_some_iff.mp _h).1
    omega
  · have hlt := (List.getElem?_eq_some_iff.mp _h).1
    have hle := le_of_closeComment? _hc
    omega

def seek? (inComment : Bool) (chars : List Char) (pos : Nat) : Option (Stop × Nat) :=
  if inComment then do
    match ← closeComment? chars pos with
    | (false, stop) => return (.lineEnd true, stop)
    | (true, stop) => find? chars stop
  else find? chars pos

section Lands

/-- The result is there, and it leaves the cursor on the line, in front of this rest. -/
def Lands {α : Type} (chars : List Char) (result : Option (α × Nat)) (found : α × List Char) :
    Prop :=
  ∃ stop ≤ chars.length, result = some (found.1, stop) ∧ chars.drop stop = found.2

variable {chars cs : List Char} {pos : Nat} {c : Char}

theorem lt_of_drop (h : chars.drop pos = c :: cs) : pos < chars.length := by
  have hlength := congrArg List.length h
  rw [List.length_drop, List.length_cons] at hlength
  omega

theorem drop_succ (h : chars.drop pos = c :: cs) : chars.drop (pos + 1) = cs := by
  rw [← List.drop_drop, h]
  rfl

theorem getElem?_of_drop (h : chars.drop pos = c :: cs) : chars[pos]? = some c := by
  rw [← List.head?_drop, h]
  rfl

theorem drop_of_getElem? (h : chars[pos]? = some c) :
    chars.drop pos = c :: chars.drop (pos + 1) := by
  obtain ⟨hlt, rfl⟩ := List.getElem?_eq_some_iff.mp h
  exact List.drop_eq_getElem_cons hlt

theorem lands_succ {α : Type} (h : chars.drop pos = c :: cs) (found : α) :
    Lands chars (some (found, pos + 1)) (found, cs) :=
  ⟨pos + 1, lt_of_drop h, rfl, drop_succ h⟩

theorem slice?_to_end (h : pos ≤ chars.length) :
    slice? chars pos chars.length = some (chars.drop pos) := by
  rw [slice?_of_le h (Nat.le_refl _), ← List.length_drop, List.take_length]

theorem ofSymbol?_ofList (symbol : List Char) :
    Comparison.ofSymbol? (String.ofList symbol) =
      Comparison.all.find? fun comparison => symbol = comparison.symbol.toList := by
  rw [Comparison.ofSymbol?]
  congr 1
  funext comparison
  rw [Bool.eq_iff_iff, beq_iff_eq, decide_eq_true_iff, ← String.toList_inj, String.toList_ofList,
    eq_comm]

theorem ofSymbol?_singleton (c : Char) :
    Comparison.ofSymbol? (String.ofList [c]) =
      if c = '=' then some .equal else if c = '<' then some .less
      else if c = '>' then some .greater else none := by
  rw [ofSymbol?_ofList]
  simp only [Comparison.all, Comparison.symbol, List.find?_cons]
  by_cases he : c = '=' <;> by_cases hl : c = '<' <;> by_cases hg : c = '>' <;> simp [he, hl, hg]

theorem ofSymbol?_pair (c d : Char) :
    Comparison.ofSymbol? (String.ofList [c, d]) =
      if d = '=' then
        if c = '!' then some .unequal else if c = '<' then some .atMost
        else if c = '>' then some .atLeast else none
      else none := by
  rw [ofSymbol?_ofList]
  by_cases hd : d = '='
  · by_cases hu : c = '!' <;> by_cases hl : c = '<' <;> by_cases hg : c = '>' <;>
      simp [Comparison.all, Comparison.symbol, hd, hu, hl, hg]
  · simp [Comparison.all, Comparison.symbol, hd]

theorem read?_cons_cons (c d : Char) (cs : List Char) :
    Comparison.read? (c :: d :: cs) =
      match Comparison.ofSymbol? (String.ofList [c, d]) with
      | some comparison => some (comparison, cs)
      | none => (Comparison.ofSymbol? (String.ofList [c])).map (·, d :: cs) := by
  rw [ofSymbol?_pair, ofSymbol?_singleton]
  by_cases hd : d = '='
  · subst hd
    by_cases hu : c = '!'
    · subst hu
      rfl
    by_cases hl : c = '<'
    · subst hl
      rfl
    by_cases hg : c = '>'
    · subst hg
      rfl
    unfold Comparison.read?
    split <;> simp_all
  · unfold Comparison.read?
    split <;> simp_all

theorem read?_singleton (c : Char) :
    Comparison.read? [c] = (Comparison.ofSymbol? (String.ofList [c])).map (·, []) := by
  rw [ofSymbol?_singleton]
  unfold Comparison.read?
  split <;> simp_all

theorem symbol?_cons {rest : List Char} {width : Nat} (h : width ≤ rest.length)
    (widths : List Nat) :
    symbol? rest (width :: widths) =
      match Comparison.ofSymbol? (String.ofList (rest.take width)) with
      | some comparison => some (some (comparison, width))
      | none => symbol? rest widths := by
  rw [symbol?, if_neg (Nat.not_lt.mpr h), slice?_of_le (Nat.zero_le _) h]
  rfl

/-- Trying two characters before one finds the longest symbol. -/
theorem symbol?_eq_read? (c : Char) (cs : List Char) :
    match Comparison.read? (c :: cs) with
    | some (comparison, rest) => ∃ width ≤ (c :: cs).length,
        symbol? (c :: cs) [2, 1] = some (some (comparison, width)) ∧ (c :: cs).drop width = rest
    | none => symbol? (c :: cs) [2, 1] = some none := by
  have hone : symbol? (c :: cs) [1] =
      some ((Comparison.ofSymbol? (String.ofList [c])).map (·, 1)) := by
    rw [symbol?_cons (Nat.succ_le_succ (Nat.zero_le _)), List.take_succ_cons, List.take_zero]
    cases Comparison.ofSymbol? (String.ofList [c]) <;> rfl
  cases cs with
  | nil =>
    have htwo : symbol? [c] [2, 1] = symbol? [c] [1] := rfl
    rw [read?_singleton, htwo, hone]
    cases Comparison.ofSymbol? (String.ofList [c]) with
    | none => rfl
    | some comparison => exact ⟨1, Nat.le_refl 1, rfl, rfl⟩
  | cons d ds =>
    have hwidth : 2 ≤ (c :: d :: ds).length := by simp
    rw [read?_cons_cons, symbol?_cons hwidth, hone, List.take_succ_cons, List.take_succ_cons,
      List.take_zero]
    cases Comparison.ofSymbol? (String.ofList [c, d]) with
    | some comparison => exact ⟨2, hwidth, rfl, rfl⟩
    | none =>
      cases Comparison.ofSymbol? (String.ofList [c]) with
      | none => rfl
      | some comparison => exact ⟨1, Nat.le_of_succ_le hwidth, rfl, rfl⟩

theorem lands_relation? (h : chars.drop pos = c :: cs) :
    Lands chars (relation? chars pos)
      (match Comparison.read? (c :: cs) with
        | some (comparison, rest) => (.ok (.comparison comparison), rest)
        | none => (.error (.unrecognized c), cs)) := by
  have hlt := lt_of_drop h
  have hsymbol := symbol?_eq_read? c cs
  rw [relation?, slice?_to_end (Nat.le_of_lt hlt), h]
  simp only [Option.bind_eq_bind, Option.bind_some]
  cases hread : Comparison.read? (c :: cs) with
  | none =>
    rw [hread] at hsymbol
    rw [hsymbol]
    exact lands_succ h _
  | some found =>
    obtain ⟨comparison, rest⟩ := found
    rw [hread] at hsymbol
    obtain ⟨width, hle, hsymbol, hrest⟩ := hsymbol
    rw [← h, List.length_drop] at hle
    rw [hsymbol]
    refine ⟨pos + width, by omega, rfl, ?_⟩
    rw [← List.drop_drop, h]
    exact hrest

theorem takeWhile_of_findIdx? {p : Char → Bool} {length : Nat} (h : cs.findIdx? p = some length) :
    cs.takeWhile (!p ·) = cs.take length ∧
      ∃ quote, cs.dropWhile (!p ·) = quote :: cs.drop (length + 1) := by
  induction cs generalizing length with
  | nil => cases h
  | cons c cs ih =>
    rw [List.findIdx?_cons] at h
    split at h <;> rename_i hp
    · cases h
      simp [hp]
    · obtain ⟨length', hl, rfl⟩ := Option.map_eq_some_iff.mp h
      obtain ⟨htake, quote, hdrop⟩ := ih hl
      simp [hp, htake, hdrop]

theorem lands_literal? (h : chars.drop pos = c :: cs) :
    Lands chars (literal? chars pos) (Scan.literal cs) := by
  have hlt := lt_of_drop h
  have hcs := drop_succ h
  rw [literal?, slice?_to_end hlt, hcs, Scan.literal]
  simp only [Option.bind_eq_bind, Option.bind_some]
  have hquote : (fun d : Char => d != '\x27') = fun d => !(d == '\x27') := rfl
  cases hfind : cs.findIdx? (· == '\x27') with
  | none =>
    have hnone : cs.dropWhile (· != '\x27') = [] := by
      rw [List.dropWhile_eq_nil_iff]
      simpa [List.findIdx?_eq_none_iff] using hfind
    rw [hnone]
    exact ⟨chars.length, Nat.le_refl _, rfl, List.drop_length⟩
  | some length =>
    obtain ⟨htake, quote, hdrop⟩ := takeWhile_of_findIdx? hfind
    rw [← hquote] at htake hdrop
    have hlength := congrArg List.length hdrop
    have hle := (List.dropWhile_suffix (l := cs) (· != '\x27')).length_le
    have hcount := congrArg List.length hcs
    obtain ⟨hin, -⟩ := List.findIdx?_eq_some_iff_getElem.mp hfind
    rw [List.length_drop] at hcount
    have hslice : slice? chars (pos + 1) (pos + 1 + length) = some (cs.take length) := by
      rw [slice?_of_le (Nat.le_add_right _ _) (by omega), hcs, Nat.add_sub_cancel_left]
    dsimp only
    rw [hslice, hdrop, htake]
    refine ⟨pos + 1 + length + 1, by omega, rfl, ?_⟩
    rw [Nat.add_assoc (pos + 1), ← List.drop_drop, hcs]

theorem wordEnd_eq (h : pos ≤ chars.length) :
    wordEnd chars pos = pos + ((chars.drop pos).takeWhile isWordChar).length := by
  fun_induction wordEnd chars pos with
  | case1 pos c hc hword ih =>
    rw [ih (List.getElem?_eq_some_iff.mp hc).1, drop_of_getElem? hc, List.takeWhile_cons_of_pos hword,
      List.length_cons]
    omega
  | case2 pos c hc hword =>
    rw [drop_of_getElem? hc, List.takeWhile_cons_of_neg hword, List.length_nil, Nat.add_zero]
  | case3 pos hnone =>
    rw [List.drop_eq_nil_of_le (List.getElem?_eq_none_iff.mp hnone)]
    rfl

theorem lands_word? (h : chars.drop pos = c :: cs) (hc : isLetter c = true) :
    Lands chars (word? chars pos)
      (.ok (.ofWord (String.ofList (c :: cs.takeWhile isWordChar))), cs.dropWhile isWordChar) := by
  have hlt := lt_of_drop h
  have hword : isWordChar c = true := by simp [isWordChar, hc]
  have hend := wordEnd_eq (Nat.le_of_lt hlt)
  have hsplit : (c :: cs.takeWhile isWordChar) ++ cs.dropWhile isWordChar = chars.drop pos := by
    rw [h, List.cons_append, List.takeWhile_append_dropWhile]
  rw [h, List.takeWhile_cons_of_pos hword] at hend
  have hlength := congrArg List.length hsplit
  rw [List.length_append, List.length_drop] at hlength
  have hslice : slice? chars pos (wordEnd chars pos) =
      some (c :: cs.takeWhile isWordChar) := by
    rw [hend, slice?_of_le (Nat.le_add_right _ _) (by omega), Nat.add_sub_cancel_left, ← hsplit,
      List.take_left]
  rw [word?]
  simp only [hslice, Option.bind_eq_bind, Option.bind_some]
  refine ⟨wordEnd chars pos, by omega, rfl, ?_⟩
  rw [hend, ← List.drop_drop, ← hsplit, List.drop_left]

theorem lands_lexeme? (h : chars.drop pos = c :: cs) :
    Lands chars (lexeme? chars pos c) (Scan.lexeme c cs) := by
  rw [lexeme?, Scan.lexeme]
  by_cases hleft : c = '('
  · rw [if_pos hleft, if_pos hleft]
    exact lands_succ h _
  rw [if_neg hleft, if_neg hleft]
  by_cases hright : c = ')'
  · rw [if_pos hright, if_pos hright]
    exact lands_succ h _
  rw [if_neg hright, if_neg hright]
  by_cases hcomma : c = ','
  · rw [if_pos hcomma, if_pos hcomma]
    exact lands_succ h _
  rw [if_neg hcomma, if_neg hcomma]
  by_cases hsemicolon : c = ';'
  · rw [if_pos hsemicolon, if_pos hsemicolon]
    exact lands_succ h _
  rw [if_neg hsemicolon, if_neg hsemicolon]
  by_cases hrelation : c = '=' ∨ c = '!' ∨ c = '<' ∨ c = '>'
  · have hquote : c ≠ '\x27' := by
      rintro rfl
      revert hrelation
      decide
    have hletter : isLetter c = false := by
      obtain rfl | rfl | rfl | rfl := hrelation <;> decide +kernel
    rw [if_pos hrelation, if_neg hquote]
    have hlands := lands_relation? h
    cases hread : Comparison.read? (c :: cs) with
    | none =>
      rw [hread] at hlands
      simpa [hletter] using hlands
    | some found =>
      rw [hread] at hlands
      exact hlands
  · have hread : Comparison.read? (c :: cs) = none := by
      unfold Comparison.read?
      split <;> simp_all
    rw [if_neg hrelation, hread]
    by_cases hquote : c = '\x27'
    · rw [if_pos hquote, if_pos hquote]
      exact lands_literal? h
    rw [if_neg hquote, if_neg hquote]
    by_cases hletter : isLetter c = true
    · rw [if_pos hletter]
      dsimp only
      rw [if_pos hletter]
      exact lands_word? h hletter
    · rw [if_neg hletter]
      dsimp only
      rw [if_neg hletter]
      exact lands_succ h _

theorem lands_closeComment? (h : pos ≤ chars.length) :
    Lands chars (closeComment? chars pos)
      (match Scan.afterComment? (chars.drop pos) with
        | some rest => (true, rest)
        | none => (false, [])) := by
  fun_induction closeComment? chars pos with
  | case1 pos hlt => omega
  | case2 pos _ hnone =>
    have hle := List.getElem?_eq_none_iff.mp hnone
    rw [List.drop_eq_nil_of_le hle]
    exact ⟨pos, h, rfl, List.drop_eq_nil_of_le hle⟩
  | case3 pos _ c hc hclose =>
    have hdrop := drop_of_getElem? hc
    have hnext := drop_of_getElem? hclose.2
    obtain ⟨hlt, -⟩ := List.getElem?_eq_some_iff.mp hclose.2
    rw [hdrop, hnext, hclose.1]
    exact ⟨pos + 2, hlt, rfl, rfl⟩
  | case4 pos _ c hc hopen ih =>
    have hdrop := drop_of_getElem? hc
    have hskip : Scan.afterComment? (c :: chars.drop (pos + 1)) =
        Scan.afterComment? (chars.drop (pos + 1)) := by
      rw [Scan.afterComment?.eq_2]
      rintro rest rfl hrest
      exact hopen ⟨rfl, getElem?_of_drop hrest⟩
    rw [hdrop, hskip]
    exact ih (lt_of_drop hdrop)

theorem line_of_closeComment? {closed : Bool} {stop : Nat} (h : pos ≤ chars.length)
    (hc : closeComment? chars pos = some (closed, stop)) :
    stop ≤ chars.length ∧
      if closed then Scan.line true (chars.drop pos) = Scan.text (chars.drop stop)
      else Scan.line true (chars.drop pos) = ([], true) ∧ chars.drop stop = [] := by
  obtain ⟨stop', hle, hresult, hrest⟩ := lands_closeComment? h
  rw [hc, Option.some.injEq, Prod.mk.injEq] at hresult
  obtain ⟨rfl, rfl⟩ := hresult
  refine ⟨hle, ?_⟩
  rw [Scan.line, if_pos rfl]
  cases ha : Scan.afterComment? (chars.drop pos) with
  | none =>
    rw [ha] at hrest
    exact ⟨rfl, hrest⟩
  | some rest =>
    rw [ha] at hrest
    exact congrArg Scan.text hrest.symm

theorem text_of_open (h : chars[pos]? = some '/') (hnext : chars[pos + 1]? = some '*') :
    Scan.text (chars.drop pos) = Scan.line true (chars.drop (pos + 2)) := by
  rw [drop_of_getElem? h, drop_of_getElem? hnext, Scan.text_comment]

theorem text_of_lexeme (hblank : isBlank c = false)
    (hopen : ¬ (c = '/' ∧ cs.head? = some '*'))
    (hmark : ¬ (c = '/' ∧ cs.head? = some '/' ∨ c = '-' ∧ cs.head? = some '-')) :
    Scan.text (c :: cs) =
      ((Scan.lexeme c cs).1 :: (Scan.text (Scan.lexeme c cs).2).1,
        (Scan.text (Scan.lexeme c cs).2).2) := by
  rw [Scan.text.eq_def]
  split <;> rename_i he <;> cases he
  · exact absurd ⟨rfl, rfl⟩ hopen
  · exact absurd (.inl ⟨rfl, rfl⟩) hmark
  · exact absurd (.inr ⟨rfl, rfl⟩) hmark
  · rw [if_neg (by simp [hblank])]

/-- What is scanned from a position on is what is found there, before what is scanned from where the
search has stopped. -/
def Finds (chars : List Char) (result : Option (Stop × Nat)) (scanned : List Lexeme × Bool) : Prop :=
  ∃ stop rest, Lands chars result (stop, rest) ∧ scanned = stop.before (Scan.text rest) ∧
    ∀ opened, stop = .lineEnd opened → rest = []

theorem finds_lineEnd {stop : Nat} (h : stop ≤ chars.length) (hdrop : chars.drop stop = [])
    (opened : Bool) : Finds chars (some (.lineEnd opened, stop)) ([], opened) :=
  ⟨.lineEnd opened, [], ⟨stop, h, rfl, hdrop⟩, rfl, fun _ _ => rfl⟩

theorem finds_find? (h : pos ≤ chars.length) :
    Finds chars (find? chars pos) (Scan.text (chars.drop pos)) := by
  fun_induction find? chars pos with
  | case1 pos hlt => omega
  | case2 pos _ hnone =>
    have hnil := List.drop_eq_nil_of_le (List.getElem?_eq_none_iff.mp hnone)
    rw [hnil, Scan.text_nil]
    exact finds_lineEnd h hnil false
  | case3 pos _ c hc hblank ih =>
    have hdrop := drop_of_getElem? hc
    rw [hdrop, Scan.text_blank hblank]
    exact ih (lt_of_drop hdrop)
  | case4 pos _ c hc next hblank hopen hnone =>
    have hlt : pos + 2 ≤ chars.length := (List.getElem?_eq_some_iff.mp hopen.2).1
    obtain ⟨stop, -, hclose, -⟩ := lands_closeComment? hlt
    rw [hnone] at hclose
    cases hclose
  | case5 pos _ c hc next hblank hopen stop hclosed =>
    obtain ⟨rfl, hnext⟩ := hopen
    have hlt : pos + 2 ≤ chars.length := (List.getElem?_eq_some_iff.mp hnext).1
    obtain ⟨hle, hline, hdrop⟩ := line_of_closeComment? hlt hclosed
    rw [text_of_open hc hnext, hline]
    exact finds_lineEnd hle hdrop true
  | case6 pos _ c hc next hblank hopen stop hclosed ih =>
    obtain ⟨rfl, hnext⟩ := hopen
    have hlt : pos + 2 ≤ chars.length := (List.getElem?_eq_some_iff.mp hnext).1
    obtain ⟨hle, hline⟩ := line_of_closeComment? hlt hclosed
    rw [if_pos rfl] at hline
    rw [text_of_open hc hnext, hline]
    exact ih hle
  | case7 pos _ c hc next hblank hopen hmark =>
    have hdrop := drop_of_getElem? hc
    have htext : Scan.text (chars.drop pos) = ([], false) := by
      obtain ⟨rfl, hnext⟩ | ⟨rfl, hnext⟩ := hmark
      · rw [hdrop, drop_of_getElem? hnext, Scan.text_mark (.inl rfl)]
      · rw [hdrop, drop_of_getElem? hnext, Scan.text_mark (.inr rfl)]
    rw [htext]
    exact finds_lineEnd (Nat.le_refl _) List.drop_length false
  | case8 pos _ c hc next hblank hopen hmark =>
    have hdrop := drop_of_getElem? hc
    have hnext : next = (chars.drop (pos + 1)).head? := List.head?_drop.symm
    rw [hnext] at hopen hmark
    obtain ⟨stop, hle, hlexeme, hrest⟩ := lands_lexeme? hdrop
    rw [hdrop, text_of_lexeme (by simpa using hblank) hopen hmark, hlexeme]
    exact ⟨.lexeme _, _, ⟨stop, hle, rfl, hrest⟩, rfl, fun _ he => by cases he⟩

/-- From any position of a line the search for the next lexeme stays on the line. -/
theorem finds_seek? (inComment : Bool) (h : pos ≤ chars.length) :
    Finds chars (seek? inComment chars pos) (Scan.line inComment (chars.drop pos)) := by
  cases inComment with
  | false => exact finds_find? h
  | true =>
    obtain ⟨closed, stop, hclose⟩ : ∃ closed stop, closeComment? chars pos = some (closed, stop) := by
      obtain ⟨stop, -, hclose, -⟩ := lands_closeComment? h
      exact ⟨_, stop, hclose⟩
    obtain ⟨hle, hline⟩ := line_of_closeComment? h hclose
    rw [seek?, if_pos rfl, hclose]
    cases closed with
    | false =>
      obtain ⟨hline, hdrop⟩ := hline
      rw [hline]
      exact finds_lineEnd hle hdrop true
    | true =>
      rw [if_pos rfl] at hline
      rw [hline]
      exact finds_find? hle

end Lands

end Cursor

end TableShell
