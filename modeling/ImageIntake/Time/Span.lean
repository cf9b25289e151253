namespace ImageIntake

structure Span where
  nanos : Nat
  deriving DecidableEq, Repr, Inhabited

namespace Span

def ofSeconds (n : Nat) : Span := ⟨n * 1000000000⟩

def ofMillis (n : Nat) : Span := ⟨n * 1000000⟩

def seconds (s : Span) : Nat := s.nanos / 1000000000

instance : Add Span where
  add a b := ⟨a.nanos + b.nanos⟩

instance : LE Span where
  le a b := a.nanos ≤ b.nanos

instance : LT Span where
  lt a b := a.nanos < b.nanos

instance (a b : Span) : Decidable (a ≤ b) := inferInstanceAs (Decidable (a.nanos ≤ b.nanos))

instance (a b : Span) : Decidable (a < b) := inferInstanceAs (Decidable (a.nanos < b.nanos))

end Span

end ImageIntake
