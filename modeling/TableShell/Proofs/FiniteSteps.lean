import Mathlib.Data.List.Flatten
import TableShell.Proofs.Rounds
import TableShell.Proofs.ScannedText
import TableShell.Proofs.ScannedTokens

namespace TableShell

namespace Scan

theorem length_text_le (cs : List Char) :
    (text cs).1.length + (text cs).2.toNat ≤ cs.length := by
  fun_induction text cs with
  | case1 => exact Nat.le_refl 0
  | case2 cs h =>
    simp only [List.length_nil, Bool.toNat_true, List.length_cons]
    omega
  | case3 cs rest h ih =>
    have hrest := length_of_afterComment? h
    simp only [List.length_cons]
    omega
  | case4 => exact Nat.zero_le _
  | case5 => exact Nat.zero_le _
  | case6 c cs _ _ _ _ ih => exact Nat.le_succ_of_le ih
  | case7 c cs _ _ _ _ found later ih =>
    have hfound : found.2.length ≤ cs.length := length_lexeme_le c cs
    have hlater : later.1.length + later.2.toNat ≤ found.2.length := ih
    simp only [List.length_cons]
    omega

theorem length_line_le (inComment : Bool) (cs : List Char) :
    (line inComment cs).1.length + (line inComment cs).2.toNat ≤
      cs.length + inComment.toNat := by
  cases inComment with
  | false => exact length_text_le cs
  | true =>
    rw [line, if_pos rfl]
    split
    · exact Nat.add_le_add_right (Nat.zero_le _) _
    · rename_i rest h
      have hrest := length_of_afterComment? h
      have htext := length_text_le rest
      omega

end Scan

namespace Source

theorem length_eventsFrom_le (number : Nat) (inComment : Bool) (lines : List String) :
    (eventsFrom number inComment lines).length ≤
      (lines.flatMap String.toList).length + inComment.toNat := by
  induction lines generalizing number inComment with
  | nil => cases inComment <;> simp [eventsFrom]
  | cons text rest ih =>
    have hline := Scan.length_line_le inComment text.toList
    have hrest := ih (number + 1) (Scan.line inComment text.toList).2
    simp only [eventsFrom, List.length_append, List.length_map, List.flatMap_cons]
    omega

end Source

namespace Text

theorem length_le_encode (s : String) : s.length ≤ (encode s).length := by
  rw [← String.length_toList, encode_eq_flatMap, List.length_flatMap]
  induction s.toList with
  | nil => exact Nat.le_refl 0
  | cons c cs ih =>
    have hpos : 0 < (String.utf8EncodeChar c).length :=
      List.length_pos_iff.mpr (String.utf8EncodeChar_ne_nil)
    simp only [List.length_cons, List.map_cons, List.sum_cons]
    omega

theorem length_dropReturns_le (s : String) : (dropReturns s).length ≤ s.length := by
  have hprefix := List.rdropWhile_prefix (· == '\r') s.toList
  rw [← dropEndWhile_eq] at hprefix
  simpa [dropReturns, ← String.length_toList] using hprefix.length_le

theorem length_decodeLines_le (lines : List (List UInt8)) :
    (((decodeLines lines).map dropReturns).flatMap String.toList).length ≤
      lines.flatten.length := by
  induction lines with
  | nil => exact Nat.le_refl 0
  | cons line rest ih =>
    rw [decodeLines]
    split
    · rename_i text h
      have htext := Nat.le_trans (length_dropReturns_le text) (length_le_encode text)
      rw [encode_of_decode? h, ← String.length_toList] at htext
      simp only [List.map_cons, List.flatMap_cons, List.flatten_cons, List.length_append]
      omega
    · exact Nat.zero_le _

theorem pieces_sublist (bytes : ByteArray) :
    ((pieces bytes).dropLast ++ unended bytes).Sublist (pieces bytes) := by
  obtain ⟨first, rest, hp⟩ := exists_splitOn_eq_cons 10 bytes.data.toList
  have hne : pieces bytes ≠ [] := by
    rw [pieces, hp]
    exact List.cons_ne_nil first rest
  have hall := List.dropLast_append_getLast hne
  have hlast : (unended bytes).Sublist [(pieces bytes).getLast hne] := by
    rw [unended, List.getLast?_eq_getLast_of_ne_nil hne]
    simp only [Option.filter]
    split
    · exact List.Sublist.refl _
    · exact List.nil_sublist _
  have happend := (List.Sublist.refl (pieces bytes).dropLast).append hlast
  rwa [hall] at happend

theorem length_scriptLines_le (bytes : ByteArray) :
    ((scriptLines bytes).flatMap String.toList).length ≤ bytes.size :=
  calc ((scriptLines bytes).flatMap String.toList).length
      ≤ ((pieces bytes).dropLast ++ unended bytes).flatten.length := length_decodeLines_le _
    _ ≤ (pieces bytes).flatten.length := (pieces_sublist bytes).flatten.length_le
    _ ≤ bytes.data.toList.length := (flatten_splitOn_sublist 10 _).length_le
    _ = bytes.size := Array.length_toList

end Text

namespace Reader

variable {t t' : Tokens}

theorem length_leading_skipOne {closed : Bool} (h : skipOne t = (closed, t')) :
    (leading t.events).length = 1 + if closed then 0 else (leading t'.events).length := by
  rw [skipOne] at h
  cases hn : t.next with
  | mk event after =>
    rw [hn] at h
    cases event with
    | error fault =>
      cases h
      rw [Tokens.events_of_peek_error (Tokens.peek_of_next_error hn)]
      simp [leading, isSemicolon, Nat.add_comm]
    | ok token =>
      cases h
      obtain ⟨peeked, hp, rfl⟩ := Tokens.peek_of_next_ok hn
      have hpassed := Tokens.events_of_passed hp
      by_cases hk : token.kind = .endOfInput
      · rw [if_pos hk] at hpassed
        simp [hpassed.1, leading, isSemicolon, hk]
      · rw [if_neg hk] at hpassed
        rw [hpassed]
        by_cases hs : token.kind = .semicolon <;> simp [leading, isSemicolon, hs, hk, Nat.add_comm]

theorem length_leading_pos (t : Tokens) : 0 < (leading t.events).length := by
  rw [length_leading_skipOne (t := t) rfl]
  omega

def skipped : Nat → Tokens → Tokens
  | 0, t => t
  | n + 1, t => skipped n (skipOne t).2

theorem skipTokens_eq_skipped (t : Tokens) :
    skipTokens t = skipped (leading t.events).length t ∧
      ∀ m < (leading t.events).length,
        ((skipOne (skipped m t)).1 = true ↔ m + 1 = (leading t.events).length) := by
  fun_induction skipTokens t with
  | case1 t t' h =>
    rw [length_leading_skipOne h]
    refine ⟨by simp [skipped, h], fun m hm => ?_⟩
    obtain rfl : m = 0 := by simpa using hm
    simp [skipped, h]
  | case2 t t' h ih =>
    obtain ⟨hskip, hclosed⟩ := ih
    rw [length_leading_skipOne h, Nat.add_comm]
    refine ⟨by simpa [skipped, h] using hskip, fun m hm => ?_⟩
    have hpos := length_leading_pos t'
    cases m with
    | zero =>
      simp only [skipped, h, Bool.false_eq_true, false_iff, if_false]
      omega
    | succ m =>
      have hm' : m < (leading t'.events).length := by simpa using hm
      simpa [skipped, h] using hclosed m hm'

end Reader

namespace Session

/-- Whatever the bytes of a script are: there are no more tokens and faults before the end of input
than bytes, because what is left of a line after a lexeme is a part of what follows its first
character; skipping ends, from any state, with the segment that it is in; and a run has at most two
rounds more than there are semicolons. -/
theorem finite_steps (source : ByteArray) (dir : String) (folder : Folder) (output : Output)
    (prompting : Bool) :
    let s := new (Text.scriptLines source) dir folder output prompting
    (∃ found last, s.events = found ++ [.ok last] ∧ last.kind = .endOfInput ∧ Endless found ∧
      found.length ≤ source.size) ∧
    (∀ c cs, (Scan.lexeme c cs).2 <:+ cs) ∧
    (∀ r : Reader, ∃ n ≤ r.tokens.drain.1.length,
      r.skip = ⟨Reader.skipped n r.tokens, true⟩ ∧ (n = 0 ↔ r.complete = true) ∧
        ∀ m < n, ((Reader.skipOne (Reader.skipped m r.tokens)).1 = true ↔ m + 1 = n)) ∧
    ∃ n last, n + 1 ≤ s.events.countP isSemicolon + 2 ∧ s.rounds n = some last ∧
      last.round = (some s.run.1, s.run.2) := by
  intro s
  have hevents : s.events = _ := events_new (Text.scriptLines source) dir folder output prompting
  refine ⟨?_, Scan.suffix_lexeme, fun r => ?_, ?_⟩
  · refine ⟨_, _, hevents, rfl, Source.endless_eventsFrom _ _ _, ?_⟩
    exact Nat.le_trans (Source.length_eventsFrom_le 0 false _) (Text.length_scriptLines_le source)
  · cases hc : r.complete with
    | true => exact ⟨0, Nat.zero_le _, by cases r; simp_all [Reader.skip, Reader.skipped], by simp,
        fun m hm => absurd hm (Nat.not_lt_zero m)⟩
    | false =>
      obtain ⟨hskip, hclosed⟩ := Reader.skipTokens_eq_skipped r.tokens
      have hpos := Reader.length_leading_pos r.tokens
      refine ⟨(leading r.tokens.events).length, ?_, by simp [Reader.skip, hc, hskip], ?_, hclosed⟩
      · rw [Tokens.drain_eq_events]
        exact (leading_isPrefix _).length_le
      · exact ⟨fun hn => absurd hn (Nat.ne_of_gt hpos), fun hn => Bool.noConfusion hn⟩
  · obtain ⟨n, last, hn, hlast, hrun, -⟩ := (run_follows_segments s).2
    rw [s.ended_events.length_segments] at hn
    exact ⟨n, last, by omega, hlast, hrun⟩

end Session

end TableShell
