namespace TableShell

inductive Comparison
  | equal
  | unequal
  | less
  | atMost
  | greater
  | atLeast
  deriving DecidableEq, Repr

namespace Comparison

def all : List Comparison := [equal, unequal, less, atMost, greater, atLeast]

def symbol : Comparison → String
  | equal => "="
  | unequal => "!="
  | less => "<"
  | atMost => "<="
  | greater => ">"
  | atLeast => ">="

def ofSymbol? (symbol : String) : Option Comparison :=
  all.find? (fun c => c.symbol == symbol)

def read? : List Char → Option (Comparison × List Char)
  | '!' :: '=' :: cs => some (unequal, cs)
  | '<' :: '=' :: cs => some (atMost, cs)
  | '>' :: '=' :: cs => some (atLeast, cs)
  | '=' :: cs => some (equal, cs)
  | '<' :: cs => some (less, cs)
  | '>' :: cs => some (greater, cs)
  | _ => none

/-- Texts are compared character by character, by code point. -/
def holds (c : Comparison) (left right : String) : Bool :=
  match c with
  | equal => left = right
  | unequal => left ≠ right
  | less => left < right
  | atMost => left ≤ right
  | greater => right < left
  | atLeast => right ≤ left

theorem ofSymbol?_symbol (c : Comparison) : ofSymbol? c.symbol = some c := by
  cases c <;> rfl

theorem read?_symbol_append (c : Comparison) (cs : List Char)
    (h : c = .less ∨ c = .greater → cs.head? ≠ some '=') :
    read? (c.symbol.toList ++ cs) = some (c, cs) := by
  cases c with
  | equal => rfl
  | unequal => rfl
  | less => cases cs with
    | nil => rfl
    | cons d ds => simp [symbol, read?]; grind
  | atMost => rfl
  | greater => cases cs with
    | nil => rfl
    | cons d ds => simp [symbol, read?]; grind
  | atLeast => rfl

theorem length_of_read? {cs rest : List Char} {c : Comparison} (h : read? cs = some (c, rest)) :
    rest.length < cs.length := by
  unfold read? at h
  split at h <;> cases h <;> simp only [List.length_cons] <;> omega

end Comparison

end TableShell
