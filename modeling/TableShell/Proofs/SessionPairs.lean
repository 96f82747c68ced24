import TableShell.Proofs.Rounds

namespace TableShell.Session

inductive Reply
  | done
  | verdict (result : Except Fault Bool)
  | ended (result : Option (Except Fault Unit))

def reply (s : Session) : Call → Reply
  | .statement => .verdict s.statement.1
  | .skip => .done
  | .round => .ended s.round.1
  | .run => .ended (some s.run.1)
  | .execute statement => .verdict (s.execute statement).1

def replies (s : Session) : List Call → List Reply
  | [] => []
  | c :: cs => s.reply c :: (s.call c).replies cs

/-- The steps of every call have the same result in sessions that are related, and keep them so. -/
structure Paired (R : Session → Session → Prop) : Prop where
  read : ∀ {s s'}, R s s' → s.read.1 = s'.read.1 ∧ R s.read.2 s'.read.2
  execute : ∀ {s s'} statement, R s s' →
    (s.execute statement).1 = (s'.execute statement).1 ∧
      R (s.execute statement).2 (s'.execute statement).2
  skip : ∀ {s s'}, R s s' → R s.skip s'.skip
  report : ∀ {s s'} text, R s s' →
    (s.output.write .answer text).1 = (s'.output.write .answer text).1 ∧
      R { s with output := (s.output.write .answer text).2 }
        { s' with output := (s'.output.write .answer text).2 }

namespace Paired

variable {R : Session → Session → Prop} {s s' : Session}

theorem statement (p : Paired R) (h : R s s') :
    s.statement.1 = s'.statement.1 ∧ R s.statement.2 s'.statement.2 := by
  obtain ⟨hresult, hread⟩ := p.read h
  cases hr : s.read.1 with
  | error fault =>
    rw [statement_of_read_error hr, statement_of_read_error (hresult ▸ hr)]
    exact ⟨rfl, hread⟩
  | ok found =>
    rw [statement_of_read_ok hr, statement_of_read_ok (hresult ▸ hr)]
    exact p.execute found hread

theorem conclude (p : Paired R) (h : R s s') (result : Except Fault Bool) :
    (conclude (result, s)).1 = (conclude (result, s')).1 ∧
      R (conclude (result, s)).2 (conclude (result, s')).2 := by
  match result with
  | .ok true => exact ⟨rfl, h⟩
  | .ok false => exact ⟨rfl, h⟩
  | .error fault =>
    obtain ⟨hw, hreport⟩ := p.report (Session.report fault) h
    cases hfits : (s.output.write .answer (Session.report fault)).1 with
    | true =>
      rw [conclude_of_fits hfits, conclude_of_fits (hw ▸ hfits)]
      exact ⟨rfl, p.skip hreport⟩
    | false =>
      rw [conclude_of_full hfits, conclude_of_full (hw ▸ hfits)]
      exact ⟨rfl, hreport⟩

theorem round (p : Paired R) (h : R s s') : s.round.1 = s'.round.1 ∧ R s.round.2 s'.round.2 := by
  obtain ⟨hresult, hafter⟩ := p.statement h
  have hconclude := p.conclude hafter s.statement.1
  have hright : (s.statement.1, s'.statement.2) = s'.statement := by rw [hresult]
  rw [hright] at hconclude
  exact hconclude

theorem run (p : Paired R) (h : R s s') : s.run.1 = s'.run.1 ∧ R s.run.2 s'.run.2 := by
  fun_induction Session.run s generalizing s' with
  | case1 s after hr ih =>
    obtain ⟨hresult, hafter⟩ := p.round h
    rw [hr] at hresult hafter
    have hright : s'.round = (none, s'.round.2) := Prod.ext hresult.symm rfl
    rw [run_of_round_none hright]
    exact ih hafter
  | case2 s result after hr =>
    obtain ⟨hresult, hafter⟩ := p.round h
    rw [hr] at hresult hafter
    have hright : s'.round = (some result, s'.round.2) := Prod.ext hresult.symm rfl
    rw [run_of_round hright]
    exact ⟨rfl, hafter⟩

theorem call (p : Paired R) (h : R s s') (c : Call) :
    s.reply c = s'.reply c ∧ R (s.call c) (s'.call c) := by
  cases c with
  | statement => exact ⟨congrArg Reply.verdict (p.statement h).1, (p.statement h).2⟩
  | skip => exact ⟨rfl, p.skip h⟩
  | round => exact ⟨congrArg Reply.ended (p.round h).1, (p.round h).2⟩
  | run => exact ⟨congrArg (fun result => Reply.ended (some result)) (p.run h).1, (p.run h).2⟩
  | execute statement =>
    exact ⟨congrArg Reply.verdict (p.execute statement h).1, (p.execute statement h).2⟩

theorem replies (p : Paired R) (h : R s s') (cs : List Call) :
    s.replies cs = s'.replies cs ∧ R (s.calls cs) (s'.calls cs) := by
  induction cs generalizing s s' with
  | nil => exact ⟨rfl, h⟩
  | cons c cs ih =>
    obtain ⟨hreply, hcall⟩ := p.call h c
    obtain ⟨hreplies, hcalls⟩ := ih hcall
    refine ⟨?_, hcalls⟩
    rw [Session.replies, Session.replies, hreply, hreplies]

end Paired

end TableShell.Session
