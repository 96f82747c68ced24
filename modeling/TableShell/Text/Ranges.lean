namespace TableShell.Text

/-- Inclusive ranges of code points, ascending and apart from each other. -/
abbrev Ranges := List (Nat × Nat)

def Ranges.contains : Ranges → Nat → Bool
  | [], _ => false
  | (first, last) :: rest, n => if n < first then false else n ≤ last || contains rest n

end TableShell.Text
