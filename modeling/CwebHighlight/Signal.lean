/-!
# Cancellation signals

A scan asks its signal before every step whether it should stop. A signal is the sequence of
answers: `signal i` is the answer to poll `i`, counted from 0. Answers need not be monotone; a
scan stops at the first `true`.
-/

namespace CwebHighlight

/-- The answer to each poll. -/
abbrev Signal := Nat → Bool

namespace Signal

def constant (b : Bool) : Signal := fun _ => b

/-- The signal of a scan that nobody can stop. -/
def never : Signal := constant false

/-- Silent for `n` polls and active from then on. -/
def after (n : Nat) : Signal := fun i => decide (n ≤ i)

/-- Active at poll `n` alone. -/
def only (n : Nat) : Signal := fun i => decide (i = n)

end Signal

end CwebHighlight
