import TableShell.Proofs.TokenEvents

namespace TableShell

namespace Scan

variable {c : Char} {cs : List Char}

theorem literal_ne_end (cs : List Char) : (literal cs).1 ≠ .ok .endOfInput := by
  rw [literal]
  split
  · simp
  · dsimp only
    split <;> simp

theorem ofWord_ne_end (word : String) : TokenKind.ofWord word ≠ .endOfInput := by
  intro h
  have hname := TokenKind.name?_ofWord word
  rw [h] at hname
  cases hname

theorem lexeme_ne_end (c : Char) (cs : List Char) : (lexeme c cs).1 ≠ .ok .endOfInput := by
  rw [lexeme]
  split
  · simp
  split
  · simp
  split
  · simp
  split
  · simp
  split
  · exact literal_ne_end cs
  split
  · simp
  split
  · simpa using ofWord_ne_end _
  · simp

theorem suffix_literal (cs : List Char) : (literal cs).2 <:+ cs := by
  have hdrop := List.dropWhile_suffix (l := cs) (· != '\x27')
  rw [literal]
  split
  · exact List.nil_suffix
  · rename_i hd
    rw [hd] at hdrop
    exact (List.suffix_cons _ _).trans hdrop

theorem suffix_read? {rest : List Char} {comparison : Comparison}
    (h : Comparison.read? (c :: cs) = some (comparison, rest)) : rest <:+ cs := by
  unfold Comparison.read? at h
  split at h <;> cases h <;> simp_all [List.suffix_cons]

theorem suffix_lexeme (c : Char) (cs : List Char) : (lexeme c cs).2 <:+ cs := by
  have hself : cs <:+ cs := List.suffix_refl cs
  rw [lexeme]
  split
  · exact hself
  split
  · exact hself
  split
  · exact hself
  split
  · exact hself
  split
  · exact suffix_literal cs
  split
  · rename_i h
    exact suffix_read? h
  split
  · exact List.dropWhile_suffix _
  · exact hself

theorem suffix_afterComment? {cs rest : List Char} (h : afterComment? cs = some rest) :
    rest <:+ cs := by
  fun_induction afterComment? cs with
  | case1 cs =>
    cases h
    exact (List.suffix_cons _ _).trans (List.suffix_cons _ _)
  | case2 c cs hc ih => exact (ih h).trans (List.suffix_cons _ _)
  | case3 => cases h

theorem exists_lexeme_of_mem_text {lexed : Lexeme} (h : lexed ∈ (text cs).1) :
    ∃ c rest, lexed = (lexeme c rest).1 ∧ rest ⊆ cs := by
  fun_induction text cs with
  | case1 => simp at h
  | case2 => simp at h
  | case3 cs rest ha ih =>
    obtain ⟨c, later, hl, hsub⟩ := ih h
    refine ⟨c, later, hl, fun d hd => ?_⟩
    exact List.mem_cons_of_mem _ (List.mem_cons_of_mem _ ((suffix_afterComment? ha).subset (hsub hd)))
  | case4 => simp at h
  | case5 => simp at h
  | case6 c cs _ _ _ _ ih =>
    obtain ⟨d, later, hl, hsub⟩ := ih h
    exact ⟨d, later, hl, List.subset_cons_of_subset c hsub⟩
  | case7 c cs _ _ _ _ found later ih =>
    obtain rfl | h := List.mem_cons.mp h
    · exact ⟨c, cs, rfl, List.subset_cons_self c cs⟩
    · obtain ⟨d, rest, hl, hsub⟩ := ih h
      refine ⟨d, rest, hl, ?_⟩
      exact List.subset_cons_of_subset c (List.Subset.trans hsub (suffix_lexeme c cs).subset)

theorem exists_lexeme_of_mem_line {lexed : Lexeme} {inComment : Bool}
    (h : lexed ∈ (line inComment cs).1) : ∃ c rest, lexed = (lexeme c rest).1 ∧ rest ⊆ cs := by
  rw [line] at h
  split at h
  · split at h
    · simp at h
    · rename_i ha
      obtain ⟨c, later, hl, hsub⟩ := exists_lexeme_of_mem_text h
      exact ⟨c, later, hl, List.Subset.trans hsub (suffix_afterComment? ha).subset⟩
  · exact exists_lexeme_of_mem_text h

theorem end_not_mem_line (inComment : Bool) (cs : List Char) :
    .ok .endOfInput ∉ (line inComment cs).1 := by
  intro hm
  obtain ⟨c, rest, hl, -⟩ := exists_lexeme_of_mem_line hm
  exact lexeme_ne_end c rest hl.symm

end Scan

def Endless (events : List Event) : Prop :=
  ∀ token : Token, .ok token ∈ events → token.kind ≠ .endOfInput

theorem upToEnd_of_endless {events : List Event} (h : Endless events) {last : Token}
    (hk : last.kind = .endOfInput) :
    upToEnd (events ++ [.ok last]) = events ++ [.ok last] := by
  induction events with
  | nil => simp [upToEnd, hk]
  | cons event rest ih =>
    have hrest := ih fun token hm => h token (List.mem_cons_of_mem _ hm)
    cases event with
    | error fault => simp [upToEnd, hrest]
    | ok token => simp [upToEnd, hrest, h token List.mem_cons_self]

theorem Source.endless_eventsFrom (number : Nat) (inComment : Bool) (lines : List String) :
    Endless (eventsFrom number inComment lines) := by
  induction lines generalizing number inComment with
  | nil =>
    intro token hm
    rw [eventsFrom] at hm
    split at hm <;> simp [Lexeme.at] at hm
  | cons line rest ih =>
    intro token hm
    rw [eventsFrom] at hm
    obtain hm | hm := List.mem_append.mp hm
    · obtain ⟨lexeme, hl, he⟩ := List.mem_map.mp hm
      cases lexeme with
      | error e => cases he
      | ok kind =>
        cases he
        intro hk
        obtain rfl : kind = .endOfInput := hk
        exact Scan.end_not_mem_line _ _ hl
    · exact ih _ _ token hm

theorem Tokens.events_ofLines (lines : List String) :
    (ofLines lines).events =
      Source.eventsFrom 0 false lines ++ [.ok ⟨.endOfInput, lines.length⟩] := by
  rw [events, ofLines, List.map_nil, List.nil_append, Source.upcoming_ofLines,
    upToEnd_of_endless (Source.endless_eventsFrom 0 false lines) rfl]
  simp [Source.lastLine, Source.ofLines]

theorem Source.kind_of_take_error {s : Source} {fault : Fault} (h : s.take.1 = .error fault) :
    fault.kind = .lexical := by
  rw [take] at h
  split at h <;> cases h
  rfl

end TableShell
