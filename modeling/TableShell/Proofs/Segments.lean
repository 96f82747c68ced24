import TableShell.Proofs.TokenEvents
import TableShell.Statement.Draft

namespace TableShell

def isSemicolon : Event → Bool
  | .ok token => token.kind = .semicolon
  | .error _ => false

def segments : List Event → List (List Event)
  | [] => []
  | event :: rest =>
    if isSemicolon event then [event] :: segments rest
    else match segments rest with
      | [] => [[event]]
      | first :: later => (event :: first) :: later

/-- The segment with this number. After the last one the end of input comes again and again. -/
def segmentAt (n : Nat) (events : List Event) : List Event :=
  ((segments events)[n]?).getD events.getLast?.toList

def remaining (n : Nat) (events : List Event) : List Event :=
  if n < (segments events).length then ((segments events).drop n).flatten
  else events.getLast?.toList

def leading : List Event → List Event
  | [] => []
  | event :: rest => if isSemicolon event then [event] else event :: leading rest

def beyond : List Event → List Event
  | [] => []
  | .error _ :: rest => beyond rest
  | .ok token :: rest =>
    if token.kind = .semicolon then rest
    else if token.kind = .endOfInput then [.ok token] else beyond rest

theorem flatten_segments (events : List Event) : (segments events).flatten = events := by
  induction events with
  | nil => rfl
  | cons event rest ih =>
    rw [segments]
    split
    · simp [ih]
    · split <;> rename_i hs <;> rw [hs] at ih <;> simpa using ih

theorem leading_isPrefix (events : List Event) : leading events <+: events := by
  induction events with
  | nil => exact List.prefix_refl []
  | cons event rest ih =>
    rw [leading]
    split
    · exact List.cons_prefix_cons.mpr ⟨rfl, List.nil_prefix⟩
    · exact List.cons_prefix_cons.mpr ⟨rfl, ih⟩

theorem subset_leading (events : List Event) : leading events ⊆ events :=
  (leading_isPrefix events).subset

theorem exists_mem_of_leading {events : List Event} {tokens : List Token}
    (hl : leading events = tokens.map .ok) {kind : TokenKind} (hk : kind ∈ tokens.map Token.kind) :
    ∃ token : Token, .ok token ∈ events ∧ token.kind = kind := by
  obtain ⟨token, ht, rfl⟩ := List.mem_map.mp hk
  have hleading : .ok token ∈ leading events := by
    rw [hl]
    exact List.mem_map_of_mem ht
  exact ⟨token, subset_leading events hleading, rfl⟩

theorem subset_beyond (events : List Event) : beyond events ⊆ events := by
  induction events with
  | nil => exact List.Subset.refl _
  | cons event rest ih =>
    cases event with
    | error fault => exact List.subset_cons_of_subset _ ih
    | ok token =>
      rw [beyond]
      split
      · exact List.subset_cons_self _ _
      split
      · exact List.cons_subset_cons _ (List.nil_subset rest)
      · exact List.subset_cons_of_subset _ ih

variable {events : List Event}

theorem Ended.ne_nil (h : Ended events) : events ≠ [] := by
  cases h <;> simp

/-- Either the first segment ends with a semicolon, or it is all there is. -/
def Cut (events : List Event) : Prop :=
  segments events = leading events :: segments (beyond events) ∧ Ended (beyond events) ∧
      (beyond events).getLast? = events.getLast? ∨
    segments events = [leading events] ∧ leading events = events ∧
      beyond events = events.getLast?.toList

theorem Cut.cons {event : Event} (h : Cut events) (he : events ≠ [])
    (hs : isSemicolon event = false) (hb : beyond (event :: events) = beyond events) :
    Cut (event :: events) := by
  have hlast : (event :: events).getLast? = events.getLast? := List.getLast?_cons_of_ne_nil he
  have hlead : leading (event :: events) = event :: leading events := by simp [leading, hs]
  obtain ⟨hseg, hend, hl⟩ | ⟨hseg, hall, hl⟩ := h
  · refine .inl ⟨?_, hb ▸ hend, ?_⟩
    · rw [segments, hs, hseg, hb, hlead]
      rfl
    · rw [hb, hlast, hl]
  · refine .inr ⟨?_, ?_, ?_⟩
    · rw [segments, hs, hseg, hlead]
      rfl
    · rw [hlead, hall]
    · rw [hb, hlast, hl]

theorem Ended.cut (h : Ended events) : Cut events := by
  induction h with
  | last h => exact .inr (by simp [segments, leading, beyond, isSemicolon, h])
  | @pass token rest h later ih =>
    by_cases hs : token.kind = .semicolon
    · have hlast : (Except.ok token :: rest : List Event).getLast? = rest.getLast? :=
        List.getLast?_cons_of_ne_nil later.ne_nil
      refine .inl ⟨?_, ?_, ?_⟩
      · simp [segments, leading, beyond, isSemicolon, hs]
      · simpa [beyond, hs] using later
      · simp [beyond, hs, hlast]
    · exact ih.cons later.ne_nil (by simpa [isSemicolon] using hs) (by simp [beyond, hs, h])
  | fault later ih => exact ih.cons later.ne_nil rfl rfl

theorem Ended.beyond (h : Ended events) : Ended (beyond events) := by
  induction h with
  | last h => simpa [TableShell.beyond, h] using Ended.last h
  | @pass token rest h later ih =>
    by_cases hs : token.kind = .semicolon
    · simpa [TableShell.beyond, hs] using later
    · simpa [TableShell.beyond, hs, h] using ih
  | fault later ih => exact ih

theorem Ended.beyond_of_unclosed (h : Ended events)
    (hs : ∀ token, .ok token ∈ leading events → token.kind ≠ .semicolon) :
    ∃ token : Token, token.kind = .endOfInput ∧ TableShell.beyond events = [.ok token] := by
  induction h with
  | @last token h => exact ⟨token, h, by simp [TableShell.beyond, h]⟩
  | @pass token rest h later ih =>
    have hk : token.kind ≠ .semicolon := by
      apply hs token
      rw [leading]
      split <;> exact List.mem_cons_self
    simp only [leading, isSemicolon, hk, decide_false, Bool.false_eq_true, if_false] at hs
    simpa [TableShell.beyond, hk, h] using ih fun other ho => hs other (List.mem_cons_of_mem _ ho)
  | fault later ih => exact ih fun other ho => hs other (List.mem_cons_of_mem _ ho)

theorem leading_of_closed {tokens : List Token} (h : .semicolon ∉ tokens.map Token.kind)
    {last : Token} (hk : last.kind = .semicolon) (later : List Event) :
    leading (tokens.map .ok ++ .ok last :: later) = (tokens ++ [last]).map .ok := by
  induction tokens with
  | nil => simp [leading, isSemicolon, hk]
  | cons token tokens ih =>
    obtain ⟨hne, hrest⟩ := List.ne_and_not_mem_of_not_mem_cons h
    simpa [leading, isSemicolon, Ne.symm hne] using ih hrest

theorem Ended.leading_append_beyond (h : Ended events) {token : Token}
    (hm : .ok token ∈ leading events) (hk : token.kind = .semicolon) :
    leading events ++ TableShell.beyond events = events := by
  induction h with
  | @last last h =>
    rw [leading, isSemicolon, h] at hm
    cases List.mem_singleton.mp hm
    rw [h] at hk
    cases hk
  | @pass first rest h later ih =>
    by_cases hs : first.kind = .semicolon
    · simp [leading, TableShell.beyond, isSemicolon, hs]
    · have hm : .ok token ∈ leading rest := by
        have hne : token ≠ first := fun he => hs (he ▸ hk)
        simpa [leading, isSemicolon, hs, hne] using hm
      simpa [leading, TableShell.beyond, isSemicolon, hs, h] using ih hm
  | @fault fault rest later ih =>
    have hm : .ok token ∈ leading rest := by simpa [leading, isSemicolon] using hm
    simpa [leading, TableShell.beyond, isSemicolon] using ih hm

theorem Ended.length_segments (h : Ended events) :
    (segments events).length = events.countP isSemicolon + 1 := by
  have hjoin : ∀ {event : Event} {rest : List Event}, isSemicolon event = false →
      (segments rest).length = rest.countP isSemicolon + 1 →
      (segments (event :: rest)).length = (event :: rest).countP isSemicolon + 1 := by
    intro event rest hs hrest
    rw [segments, hs, List.countP_cons_of_neg (by simp [hs]), ← hrest]
    cases hseg : segments rest with
    | nil => simp [hseg] at hrest
    | cons first later => rfl
  induction h with
  | last h => simp [segments, isSemicolon, h]
  | @pass token rest h later ih =>
    by_cases hs : isSemicolon (.ok token) = true
    · rw [segments, if_pos hs, List.countP_cons_of_pos hs, List.length_cons, ih]
    · exact hjoin (by simpa using hs) ih
  | fault later ih => exact hjoin rfl ih

theorem Ended.countP_beyond (h : Ended events) :
    (TableShell.beyond events).countP isSemicolon = events.countP isSemicolon - 1 := by
  induction h with
  | last h => simp [TableShell.beyond, isSemicolon, h]
  | @pass token rest h later ih =>
    by_cases hs : token.kind = .semicolon
    · simp [TableShell.beyond, isSemicolon, hs]
    · simpa [TableShell.beyond, isSemicolon, hs, h] using ih
  | fault later ih => simpa [TableShell.beyond, isSemicolon] using ih

theorem Ended.remaining_zero (h : Ended events) : remaining 0 events = events := by
  have hne : segments events ≠ [] := by
    intro hs
    have hf := flatten_segments events
    rw [hs] at hf
    exact h.ne_nil hf.symm
  simp [remaining, List.length_pos_iff.mpr hne, flatten_segments]

/-- The end of input alone is the only segment that repeats itself. -/
theorem remaining_last {token : Token} (h : token.kind = .endOfInput) (n : Nat) :
    remaining n [.ok token] = [.ok token] := by
  cases n <;> simp [remaining, segments, isSemicolon, h]

theorem Ended.getLast?_eq (h : Ended events) :
    ∃ token : Token, token.kind = .endOfInput ∧ events.getLast? = some (.ok token) := by
  induction h with
  | last h => exact ⟨_, h, rfl⟩
  | pass h later ih =>
    obtain ⟨token, hk, hl⟩ := ih
    exact ⟨token, hk, (List.getLast?_cons_of_ne_nil later.ne_nil).trans hl⟩
  | fault later ih =>
    obtain ⟨token, hk, hl⟩ := ih
    exact ⟨token, hk, (List.getLast?_cons_of_ne_nil later.ne_nil).trans hl⟩

theorem remaining_succ (h : Ended events) (n : Nat) :
    remaining (n + 1) events = remaining n (beyond events) := by
  obtain ⟨hseg, hend, hl⟩ | ⟨hseg, hall, hl⟩ := h.cut
  · simp [remaining, hseg, hl]
  · obtain ⟨token, hk, ht⟩ := h.getLast?_eq
    rw [hl, ht, Option.toList_some, remaining_last hk]
    simp [remaining, hseg, ht]

theorem Ended.countP_remaining (h : Ended events) (n : Nat) :
    (remaining n events).countP isSemicolon = events.countP isSemicolon - n := by
  induction n generalizing events with
  | zero => rw [h.remaining_zero, Nat.sub_zero]
  | succ n ih => rw [remaining_succ h, ih h.beyond, h.countP_beyond, Nat.sub_sub, Nat.add_comm]

theorem segmentAt_zero (h : Ended events) : segmentAt 0 events = leading events := by
  obtain ⟨hseg, -⟩ | ⟨hseg, -⟩ := h.cut <;> simp [segmentAt, hseg]

theorem segmentAt_succ (h : Ended events) (n : Nat) :
    segmentAt (n + 1) events = segmentAt n (beyond events) := by
  obtain ⟨hseg, hend, hl⟩ | ⟨hseg, hall, hl⟩ := h.cut
  · simp [segmentAt, hseg, hl]
  · obtain ⟨token, hk, ht⟩ := h.getLast?_eq
    rw [hl, ht, Option.toList_some]
    cases n <;> simp [segmentAt, segments, isSemicolon, hk, hseg, ht]

theorem beyond_remaining (h : Ended events) (n : Nat) :
    beyond (remaining n events) = remaining (n + 1) events := by
  induction n generalizing events with
  | zero => rw [h.remaining_zero, remaining_succ h, h.beyond.remaining_zero]
  | succ n ih => rw [remaining_succ h, ih h.beyond, remaining_succ h]

theorem leading_remaining (h : Ended events) (n : Nat) :
    leading (remaining n events) = segmentAt n events := by
  induction n generalizing events with
  | zero => rw [h.remaining_zero, segmentAt_zero h]
  | succ n ih => rw [remaining_succ h, ih h.beyond, segmentAt_succ h]

end TableShell
