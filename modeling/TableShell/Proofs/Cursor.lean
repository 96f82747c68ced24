import TableShell.Proofs.LinePositions
import TableShell.Token.Source

namespace TableShell

/-- The lines that have not been read, the characters of the last one that has, and how many of
these have been passed. -/
structure Cursor where
  unread : List String
  chars : List Char
  pos : Nat
  /-- The number of lines read. -/
  line : Nat
  inStatement : Bool
  exhausted : Bool
  /-- The prompts asked for, newest first. -/
  prompts : List Prompt

namespace Cursor

def prompt (c : Cursor) : Prompt := if c.inStatement then .continuation else .statement

def deliver (c : Cursor) (found : Lexeme) (pos : Nat) (unread : List String) : Event × Cursor :=
  (found.at c.line, { c with
    unread
    pos
    inStatement := match found with
      | .ok kind => kind ≠ .semicolon
      | .error _ => c.inStatement })

def finish (c : Cursor) (opened : Bool) (pos : Nat) (unread : List String) : Event × Cursor :=
  let event := if opened then Lexeme.at c.line (.error .unendedComment)
    else .ok ⟨.endOfInput, c.line⟩
  (event, if c.exhausted then { c with pos, unread } else
    { c with pos, unread := [], exhausted := true, prompts := c.prompt :: c.prompts })

def enter (c : Cursor) (text : String) : Cursor :=
  { c with chars := text.toList, pos := 0, line := c.line + 1, prompts := c.prompt :: c.prompts }

def nextFrom? (c : Cursor) (inComment : Bool) : List String → Option (Event × Cursor)
  | [] => do
    match ← seek? inComment c.chars c.pos with
    | (.lexeme found, pos) => return c.deliver found pos []
    | (.lineEnd opened, pos) => return c.finish opened pos []
  | text :: rest => do
    match ← seek? inComment c.chars c.pos with
    | (.lexeme found, pos) => return c.deliver found pos (text :: rest)
    | (.lineEnd opened, pos) =>
      if c.exhausted then return c.finish opened pos (text :: rest)
      else (c.enter text).nextFrom? opened rest

def next? (c : Cursor) : Option (Event × Cursor) := c.nextFrom? false c.unread

def ofLines (lines : List String) : Cursor := ⟨lines, [], 0, 0, false, false, []⟩

/-- The source that the cursor stands for, if what has been passed of the line leaves a comment open
or not. -/
def view (c : Cursor) (inComment : Bool) : Source where
  unread := c.unread
  line := c.line
  pending := (Scan.line inComment (c.chars.drop c.pos)).1
  inComment := (Scan.line inComment (c.chars.drop c.pos)).2
  inStatement := c.inStatement
  ended := c.exhausted
  prompts := c.prompts

def source (c : Cursor) : Source := c.view false

structure InLine (c : Cursor) : Prop where
  le_length : c.pos ≤ c.chars.length
  at_end : c.exhausted = true → c.pos = c.chars.length

variable {c : Cursor}

theorem source_ofLines (lines : List String) : (ofLines lines).source = Source.ofLines lines := by
  simp [source, view, ofLines, Source.ofLines, Scan.line, Scan.text_nil]

theorem inLine_ofLines (lines : List String) : (ofLines lines).InLine where
  le_length := Nat.le_refl 0
  at_end _ := rfl

theorem fillFrom_of_ready {s : Source} (h : s.ready = true) (lines : List String) :
    s.fillFrom lines = { s with unread := lines } := by
  cases lines <;> simp [Source.fillFrom, h]

section Next

variable {inComment opened : Bool} {found : Lexeme} {pos : Nat}

theorem nextFrom?_of_lexeme (h : seek? inComment c.chars c.pos = some (.lexeme found, pos))
    (unread : List String) :
    c.nextFrom? inComment unread = some (c.deliver found pos unread) := by
  cases unread <;> rw [nextFrom?, h] <;> rfl

theorem nextFrom?_of_exhausted (h : seek? inComment c.chars c.pos = some (.lineEnd opened, pos))
    (he : c.exhausted = true) (unread : List String) :
    c.nextFrom? inComment unread = some (c.finish opened pos unread) := by
  cases unread with
  | nil => rw [nextFrom?, h]; rfl
  | cons text rest =>
    rw [nextFrom?, h]
    exact if_pos he

theorem take_deliver (h : Scan.line inComment (c.chars.drop c.pos) =
      (found :: (Scan.text (c.chars.drop pos)).1, (Scan.text (c.chars.drop pos)).2))
    (unread : List String) :
    ((c.view inComment).fillFrom unread).take =
      ((c.deliver found pos unread).1, (c.deliver found pos unread).2.source) := by
  have hready : (c.view inComment).ready = true := by simp [Source.ready, view, h]
  have hfalse : ∀ cs, Scan.line false cs = Scan.text cs := fun _ => rfl
  rw [fillFrom_of_ready hready]
  cases found <;> simp [Source.take, view, source, deliver, h, hfalse, Lexeme.at]

theorem take_finish (h : Scan.line inComment (c.chars.drop c.pos) = ([], opened))
    (hdrop : c.chars.drop pos = []) (unread : List String)
    (hend : if c.exhausted then opened = false else unread = []) :
    ((c.view inComment).fillFrom unread).take =
      ((c.finish opened pos unread).1, (c.finish opened pos unread).2.source) := by
  have hnil : Scan.line false ([] : List Char) = ([], false) := Scan.text_nil
  cases he : c.exhausted with
  | true =>
    rw [he, if_pos rfl] at hend
    have hready : (c.view inComment).ready = true := by simp [Source.ready, view, he]
    rw [fillFrom_of_ready hready]
    simp [Source.take, view, source, finish, h, hend, he, hdrop, hnil]
  | false =>
    simp only [he, Bool.false_eq_true, if_false] at hend
    subst hend
    have hready : (c.view inComment).ready = false := by simp [Source.ready, view, he, h]
    rw [Source.fillFrom, if_neg (by simp [hready])]
    cases opened <;>
      simp [Source.close, Source.take, view, source, finish, h, he, hdrop, hnil, Source.prompt,
        prompt, Lexeme.at]

theorem line_of_exhausted (hend : c.exhausted = true → c.pos = c.chars.length ∧ inComment = false)
    (he : c.exhausted = true) : Scan.line inComment (c.chars.drop c.pos) = ([], false) := by
  obtain ⟨hlast, rfl⟩ := hend he
  rw [hlast, List.drop_length]
  exact Scan.text_nil

/-- The next event is found, on its line, as it is in the source that the cursor stands for. -/
def Follows (c : Cursor) (inComment : Bool) (unread : List String) : Prop :=
  ∃ event c', c.nextFrom? inComment unread = some (event, c') ∧ c'.InLine ∧
    ((c.view inComment).fillFrom unread).take = (event, c'.source)

theorem follows_of_lexeme (h : Scan.line inComment (c.chars.drop c.pos) =
      (found :: (Scan.text (c.chars.drop pos)).1, (Scan.text (c.chars.drop pos)).2))
    (hseek : seek? inComment c.chars c.pos = some (.lexeme found, pos)) (hpos : pos ≤ c.chars.length)
    (hend : c.exhausted = true → c.pos = c.chars.length ∧ inComment = false)
    (unread : List String) : c.Follows inComment unread := by
  refine ⟨_, _, nextFrom?_of_lexeme hseek unread, ⟨hpos, fun he => ?_⟩, take_deliver h unread⟩
  rw [line_of_exhausted hend he] at h
  cases h

theorem inLine_finish (opened : Bool) (hpos : pos ≤ c.chars.length)
    (hdrop : c.chars.drop pos = []) (unread : List String) : (c.finish opened pos unread).2.InLine := by
  have hlast := Nat.le_antisymm hpos (List.drop_eq_nil_iff.mp hdrop)
  rw [finish]
  dsimp only
  split <;> exact ⟨hpos, fun _ => hlast⟩

theorem follows_of_finish {unread : List String}
    (h : Scan.line inComment (c.chars.drop c.pos) = ([], opened)) (hpos : pos ≤ c.chars.length)
    (hdrop : c.chars.drop pos = [])
    (hend : c.exhausted = true → c.pos = c.chars.length ∧ inComment = false)
    (hnext : c.nextFrom? inComment unread = some (c.finish opened pos unread))
    (hlast : c.exhausted = false → unread = []) : c.Follows inComment unread := by
  refine ⟨_, _, hnext, inLine_finish opened hpos hdrop unread, take_finish h hdrop unread ?_⟩
  cases he : c.exhausted with
  | true =>
    rw [line_of_exhausted hend he] at h
    exact (congrArg Prod.snd h).symm
  | false => exact hlast he

/-- A cursor that stands on its line stays on a line, however many lines it has to read for the next
event. -/
theorem follows_nextFrom? (unread : List String) (hpos : c.pos ≤ c.chars.length)
    (hend : c.exhausted = true → c.pos = c.chars.length ∧ inComment = false) :
    c.Follows inComment unread := by
  induction unread generalizing c inComment with
  | nil =>
    obtain ⟨stop, later, ⟨pos, hle, hseek, rfl⟩, hline, hnil⟩ := finds_seek? inComment hpos
    cases stop with
    | lexeme found => exact follows_of_lexeme hline hseek hle hend []
    | lineEnd opened =>
      refine follows_of_finish hline hle (hnil opened rfl) hend ?_ fun _ => rfl
      rw [nextFrom?, hseek]
      rfl
  | cons text rest ih =>
    obtain ⟨stop, later, ⟨pos, hle, hseek, rfl⟩, hline, hnil⟩ := finds_seek? inComment hpos
    cases stop with
    | lexeme found => exact follows_of_lexeme hline hseek hle hend (text :: rest)
    | lineEnd opened =>
      cases he : c.exhausted with
      | true =>
        refine follows_of_finish hline hle (hnil opened rfl) hend ?_ fun h => ?_
        · exact nextFrom?_of_exhausted hseek he _
        · rw [he] at h
          cases h
      | false =>
        have hnext : (c.enter text).Follows opened rest :=
          ih (Nat.zero_le _) fun h => by simp [enter, he] at h
        obtain ⟨event, c', hfound, hin, htake⟩ := hnext
        refine ⟨event, c', ?_, hin, ?_⟩
        · rw [nextFrom?, hseek]
          simp [he, hfound]
        · have hready : (c.view inComment).ready = false := by
            simp [Source.ready, view, he, hline, Stop.before]
          have henter : (c.view inComment).enter text = (c.enter text).view opened := by
            simp [Source.enter, view, enter, hline, Stop.before, Source.prompt, prompt]
          rw [Source.fillFrom, if_neg (by simp [hready]), henter]
          exact htake

end Next

theorem next?_eq (h : c.InLine) :
    ∃ event c', c.next? = some (event, c') ∧ c'.InLine ∧ c.source.fill.take = (event, c'.source) :=
  follows_nextFrom? c.unread h.le_length fun he => ⟨h.at_end he, rfl⟩

end Cursor

end TableShell
