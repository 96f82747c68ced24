import TableShell.Session
import TableShell.Text.Lines

namespace TableShell

/-- A script that is read from a file while its statements are carried out. It is taken in blocks,
and a statement may write to it: what has been taken by then is read as it was, and the rest as it
is. -/
structure Script where
  location : Location
  /-- The number of bytes taken from the file. -/
  taken : Nat
  /-- The bytes taken that have not been read. -/
  held : List UInt8

namespace Script

def ofLocation (location : Location) : Script := ⟨location, 0, []⟩

def block : Nat := 8192

/-- Positions in a file are smaller than this. -/
def positions : Nat := 0x8000000000000000

def ahead (s : Script) (contents : ByteArray) : List UInt8 :=
  (contents.data.toList.take positions).drop s.taken

def unread (s : Script) (contents : ByteArray) : List UInt8 := s.held ++ s.ahead contents

def lines (s : Script) (contents : ByteArray) : List String :=
  Text.scriptLines ⟨(s.unread contents).toArray⟩

def dropLine (bytes : List UInt8) : List UInt8 := (bytes.dropWhile (· != 10)).tail

def dropLines : Nat → List UInt8 → List UInt8
  | 0, bytes => bytes
  | n + 1, bytes => dropLines n (dropLine bytes)

def inBlocks (n : Nat) : Nat := (n + (block - 1)) / block * block

def readLines (s : Script) (contents : ByteArray) (count : Nat) : Script :=
  let ahead := (s.ahead contents).length
  let rest := dropLines count (s.unread contents)
  let newlyTaken := min ahead (inBlocks (ahead - rest.length))
  { s with
    taken := s.taken + newlyTaken
    held := rest.take (rest.length - (ahead - newlyTaken)) }

def room (s : Script) : Nat := s.held.length + (positions - s.taken)

theorem length_dropLine_lt {bytes : List UInt8} (h : bytes ≠ []) :
    (dropLine bytes).length < bytes.length := by
  have hle := (List.dropWhile_suffix (· != 10) (l := bytes)).length_le
  have hpos := List.length_pos_iff.mpr h
  rw [dropLine, List.length_tail]
  omega

theorem length_dropLines_le (n : Nat) (bytes : List UInt8) :
    (dropLines n bytes).length ≤ bytes.length := by
  induction n generalizing bytes with
  | zero => exact Nat.le_refl _
  | succ n ih =>
    refine Nat.le_trans (ih _) ?_
    cases bytes with
    | nil => exact Nat.le_refl _
    | cons b bs => exact Nat.le_of_lt (length_dropLine_lt (List.cons_ne_nil b bs))

theorem length_dropLines_lt {n : Nat} (hn : 0 < n) {bytes : List UInt8} (h : bytes ≠ []) :
    (dropLines n bytes).length < bytes.length := by
  cases n with
  | zero => exact absurd hn (Nat.lt_irrefl 0)
  | succ n => exact Nat.lt_of_le_of_lt (length_dropLines_le n _) (length_dropLine_lt h)

theorem le_inBlocks (n : Nat) : n ≤ inBlocks n := by
  unfold inBlocks block
  omega

theorem length_ahead_le (s : Script) (contents : ByteArray) :
    (s.ahead contents).length ≤ positions - s.taken := by
  simp only [ahead, List.length_drop, List.length_take]
  omega

theorem room_readLines (s : Script) (contents : ByteArray) (count : Nat) :
    (s.readLines contents count).room + (s.unread contents).length =
      s.room + (dropLines count (s.unread contents)).length := by
  have hahead := s.length_ahead_le contents
  have hrest := length_dropLines_le count (s.unread contents)
  have hblocks := le_inBlocks ((s.ahead contents).length -
    (dropLines count (s.unread contents)).length)
  have hlen : (s.unread contents).length = s.held.length + (s.ahead contents).length := by
    simp [unread]
  simp only [room, readLines, List.length_take]
  omega

theorem lines_of_unread_eq_nil {s : Script} {contents : ByteArray} (h : s.unread contents = []) :
    s.lines contents = [] := by
  rw [lines, h]
  rfl

end Script

namespace Session

def source (s : Session) : Source := s.reader.tokens.source

def feed (s : Session) (lines : List String) : Session :=
  { s with
    reader := { s.reader with
      tokens := { s.reader.tokens with source := { s.source with unread := lines } } } }

def writesTo (location : Location) : Except Fault Statement × Session → Bool
  | (.ok statement, s) => s.folder.target? (statement.request s.dir s.database) = some location
  | (.error _, _) => false

/-- Carries out statements until the session is over or has written to the file at `location`. At
the end of its input a session writes as it likes. -/
def runTo (location : Location) (s : Session) : Option (Except Fault Unit) × Session :=
  let read := s.read
  match _h : conclude (carryOut read) with
  | (some result, s) => (some result, s)
  | (none, s) => if writesTo location read && !s.source.ended then (none, s) else s.runTo location
termination_by s.rank
decreasing_by exact rank_round_lt _h

theorem rank_runTo_lt {location : Location} {s s' : Session} (h : s.runTo location = (none, s')) :
    s'.rank < s.rank ∧ s'.source.ended = false := by
  fun_induction runTo location s with
  | case1 s read result after hr => cases h
  | case2 s read after hr hw =>
    cases h
    exact ⟨rank_round_lt hr, by simpa using (Bool.and_eq_true_iff.mp hw).2⟩
  | case3 s read after hr hw ih =>
    exact ⟨Rank.lt_of_lt_of_le (ih h).1 (Rank.le_of_lt (rank_round_lt hr)), (ih h).2⟩

end Session

namespace Script

/-- Between two writings of its file a script is read on, or else tokens that were read are
passed. -/
theorem room_or_waiting_lt {script : Script} {contents : ByteArray} {s s' : Session}
    (h : (s.feed (script.lines contents)).runTo script.location = (none, s')) :
    let count := (script.lines contents).length - s'.source.unread.length
    (script.readLines contents count).room < script.room ∨
      (script.readLines contents count).room = script.room ∧
        s'.reader.tokens.waiting < s.reader.tokens.waiting := by
  intro count
  obtain ⟨hlt, hended⟩ := Session.rank_runTo_lt h
  have hroom := script.room_readLines contents count
  have hleft : s'.rank.lines = s'.source.unread.length + 1 := by
    change s'.source.unread.length + (if s'.source.ended then 0 else 1) = _
    rw [hended]
    rfl
  have hfed : (s.feed (script.lines contents)).rank.lines ≤ (script.lines contents).length + 1 := by
    change (script.lines contents).length + (if s.source.ended then 0 else 1) ≤ _
    split <;> omega
  rw [Rank.lt_iff] at hlt
  by_cases hc : 0 < count
  · have hne : script.unread contents ≠ [] := by
      intro hnil
      have hlines := lines_of_unread_eq_nil hnil
      simp [count, hlines] at hc
    have hdrop := length_dropLines_lt hc hne
    omega
  · have hzero : count = 0 := by omega
    rw [hzero] at hroom ⊢
    rw [dropLines] at hroom
    refine .inr ⟨by omega, ?_⟩
    rcases hlt with hlt | ⟨_, hlt⟩
    · omega
    · exact hlt

/-- Runs a session over the script. Whenever the session has written to the file of the script, the
rest of it is read anew. -/
def run (script : Script) (s : Session) : Except Fault Unit × Session :=
  let contents := s.folder.contentsAt script.location
  let lines := script.lines contents
  match _h : (s.feed lines).runTo script.location with
  | (some result, s) => (result, s)
  | (none, s) => (script.readLines contents (lines.length - s.source.unread.length)).run s
termination_by (script.room, s.reader.tokens.waiting)
decreasing_by exact Prod.lex_def.mpr (room_or_waiting_lt _h)

end Script

end TableShell
