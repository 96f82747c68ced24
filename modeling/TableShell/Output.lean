namespace TableShell

inductive PartKind
  | prompt
  | answer
  deriving DecidableEq, Repr

structure Output where
  /-- The number of bytes that may still be stored, if there is a limit. -/
  room : Option Nat
  /-- The parts written, newest first. -/
  parts : List (PartKind × ByteArray)

namespace Output

def unlimited : Output := ⟨none, []⟩

def limited (capacity : Nat) : Output := ⟨some capacity, []⟩

/-- Writes a text as far as there is room, and tells whether all of it was stored. -/
def write (o : Output) (kind : PartKind) (text : String) : Bool × Output :=
  let bytes := text.toUTF8
  match o.room with
  | none => (true, { o with parts := (kind, bytes) :: o.parts })
  | some room =>
    (bytes.size ≤ room, ⟨some (room - bytes.size), (kind, bytes.extract 0 room) :: o.parts⟩)

def bytes (o : Output) : ByteArray :=
  o.parts.foldr (fun part stored => stored ++ part.2) ByteArray.empty

theorem write_empty (o : Output) (kind : PartKind) : (o.write kind "").1 = true := by
  unfold write
  split
  · rfl
  · simp

end Output

end TableShell
