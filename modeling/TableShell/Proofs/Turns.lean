import Mathlib.Data.List.Forall2
import TableShell.Proofs.SessionPairs

namespace TableShell.Session

/-- What was read when a statement was asked for, and the session that carries it out. -/
structure Turn where
  reading : Except Fault Statement
  session : Session

namespace Turn

def request (t : Turn) : Option FileRequest :=
  match t.reading with
  | .ok statement => statement.request t.session.dir t.session.database
  | .error _ => none

def result (t : Turn) : Except Fault Bool := (carryOut (t.reading, t.session)).1

def after (t : Turn) : Session := (carryOut (t.reading, t.session)).2

def Within (P : Session → Prop) (Q : Statement → Prop) (t : Turn) : Prop :=
  P t.session ∧ ∀ statement, t.reading = .ok statement → Q statement

def Paired (R : Session → Session → Prop) (t t' : Turn) : Prop :=
  t.reading = t'.reading ∧ R t.session t'.session

end Turn

variable {s s' : Session}

def turn (s : Session) : Turn := ⟨s.read.1, s.read.2⟩

theorem statement_eq_turn (s : Session) : s.statement = (s.turn.result, s.turn.after) := rfl

def turnsOfRun (s : Session) : List Turn :=
  match _h : s.round with
  | (none, after) => s.turn :: after.turnsOfRun
  | (some _, _) => [s.turn]
termination_by s.rank
decreasing_by exact rank_round_lt _h

theorem turnsOfRun_of_round {result : Except Fault Unit} (h : s.round = (some result, s')) :
    s.turnsOfRun = [s.turn] := by
  rw [turnsOfRun]
  split <;> rename_i hr <;> rw [h] at hr
  cases hr

theorem turnsOfRun_of_round_none (h : s.round = (none, s')) :
    s.turnsOfRun = s.turn :: s'.turnsOfRun := by
  rw [turnsOfRun]
  split <;> rename_i hr <;> rw [h] at hr <;> cases hr
  rfl

def turnsOf (s : Session) : Call → List Turn
  | .statement => [s.turn]
  | .skip => []
  | .round => [s.turn]
  | .run => s.turnsOfRun
  | .execute statement => [⟨.ok statement, s⟩]

def turns (s : Session) : List Call → List Turn
  | [] => []
  | c :: cs => s.turnsOf c ++ (s.call c).turns cs

namespace Kept

variable {P : Session → Prop} {Q : Statement → Prop}

theorem turn (k : Kept P Q) (h : P s) : s.turn.Within P Q :=
  ⟨k.read h, fun _ hr => k.readable h hr⟩

theorem turnsOfRun (k : Kept P Q) (h : P s) : ∀ t ∈ s.turnsOfRun, t.Within P Q := by
  fun_induction Session.turnsOfRun s with
  | case1 s after hr ih =>
    have hround := k.round h
    rw [hr] at hround
    exact List.forall_mem_cons.mpr ⟨k.turn h, ih hround⟩
  | case2 s result after hr => exact List.forall_mem_singleton.mpr (k.turn h)

theorem turnsOf (k : Kept P Q) {c : Call} (hc : c.Within Q) (h : P s) :
    ∀ t ∈ s.turnsOf c, t.Within P Q := by
  cases c with
  | statement => exact List.forall_mem_singleton.mpr (k.turn h)
  | skip => exact fun t hm => absurd hm List.not_mem_nil
  | round => exact List.forall_mem_singleton.mpr (k.turn h)
  | run => exact k.turnsOfRun h
  | execute statement =>
    refine List.forall_mem_singleton.mpr ⟨h, fun _ hs => ?_⟩
    cases hs
    exact hc

theorem turns (k : Kept P Q) {cs : List Call} (hcs : ∀ c ∈ cs, c.Within Q) (h : P s) :
    ∀ t ∈ s.turns cs, t.Within P Q := by
  induction cs generalizing s with
  | nil => exact fun t hm => absurd hm List.not_mem_nil
  | cons c cs ih =>
    obtain ⟨hc, hcs⟩ := List.forall_mem_cons.mp hcs
    exact List.forall_mem_append.mpr ⟨k.turnsOf hc h, ih hcs (k.call hc h)⟩

end Kept

namespace Paired

variable {R : Session → Session → Prop}

theorem result (p : Paired R) {t t' : Turn} (h : t.Paired R t') : t.result = t'.result := by
  obtain ⟨reading, s⟩ := t
  obtain ⟨reading', s'⟩ := t'
  obtain ⟨rfl, hr⟩ : reading = reading' ∧ R s s' := h
  cases reading with
  | error fault => rfl
  | ok statement => exact (p.execute statement hr).1

theorem turn (p : Paired R) (h : R s s') : s.turn.Paired R s'.turn := p.read h

theorem turnsOfRun (p : Paired R) (h : R s s') :
    List.Forall₂ (Turn.Paired R) s.turnsOfRun s'.turnsOfRun := by
  fun_induction Session.turnsOfRun s generalizing s' with
  | case1 s after hr ih =>
    obtain ⟨hresult, hafter⟩ := p.round h
    rw [hr] at hresult hafter
    have hright : s'.round = (none, s'.round.2) := Prod.ext hresult.symm rfl
    rw [turnsOfRun_of_round_none hright]
    exact .cons (p.turn h) (ih hafter)
  | case2 s result after hr =>
    obtain ⟨hresult, -⟩ := p.round h
    rw [hr] at hresult
    have hright : s'.round = (some result, s'.round.2) := Prod.ext hresult.symm rfl
    rw [turnsOfRun_of_round hright]
    exact .cons (p.turn h) .nil

theorem turnsOf (p : Paired R) (h : R s s') (c : Call) :
    List.Forall₂ (Turn.Paired R) (s.turnsOf c) (s'.turnsOf c) := by
  cases c with
  | statement => exact .cons (p.turn h) .nil
  | skip => exact .nil
  | round => exact .cons (p.turn h) .nil
  | run => exact p.turnsOfRun h
  | execute statement => exact .cons ⟨rfl, h⟩ .nil

theorem turns (p : Paired R) (h : R s s') (cs : List Call) :
    List.Forall₂ (Turn.Paired R) (s.turns cs) (s'.turns cs) := by
  induction cs generalizing s s' with
  | nil => exact .nil
  | cons c cs ih => exact List.rel_append (p.turnsOf h c) (ih (p.call h c).2)

end Paired

end TableShell.Session
