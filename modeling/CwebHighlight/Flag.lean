import CwebHighlight.Scan

/-!
# Cancellation flags

A flag is a shared switch: clones of a flag are the same switch, and once it is on it stays on.
`Switches` holds the state of all switches; a `Flag` is the number of its switch, so two flags
are the same flag exactly if their numbers are equal.
-/

namespace CwebHighlight

/-- A handle on a switch. -/
structure Flag where
  switch : Nat
  deriving DecidableEq, Repr

/-- The switches handed out so far, by number: whether each is on. -/
structure Switches where
  on : List Bool
  deriving DecidableEq, Repr

namespace Switches

def empty : Switches := ⟨[]⟩

/-- A flag with a switch of its own, which is off. -/
def fresh (s : Switches) : Flag × Switches := (⟨s.on.length⟩, ⟨s.on ++ [false]⟩)

def cancel (s : Switches) (f : Flag) : Switches := ⟨s.on.set f.switch true⟩

def isCancelled (s : Switches) (f : Flag) : Bool := s.on.getD f.switch false

/-- The signal that a scan polls while nobody touches the flag. -/
def signal (s : Switches) (f : Flag) : Signal := .constant (s.isCancelled f)

end Switches

/-! ## Handles

A session with flags: handles are numbered in the order in which they are made, and each step
names the handles it is about.
-/

inductive FlagStep where
  | new
  | clone (handle : Nat)
  | cancel (handle : Nat)
  | same (a b : Nat)
  | classify (handle : Nat) (text : List Char)
  deriving DecidableEq, Repr

inductive FlagAnswer where
  | done
  | same (equal : Bool)
  | tokens (tokens : List Token)
  deriving DecidableEq, Repr

/-- All handles, each with its flag, and the switches behind them. -/
structure FlagSession where
  handles : List Flag
  switches : Switches
  deriving DecidableEq, Repr

namespace FlagSession

def empty : FlagSession := ⟨[], .empty⟩

/-- What each handle reports. -/
def states (s : FlagSession) : List Bool := s.handles.map s.switches.isCancelled

/-- One step. A step about a handle that does not exist is refused. -/
def step? (s : FlagSession) : FlagStep → Option (FlagSession × FlagAnswer)
  | .new =>
    let (flag, switches) := s.switches.fresh
    some (⟨s.handles ++ [flag], switches⟩, .done)
  | .clone i => do return (⟨s.handles ++ [← s.handles[i]?], s.switches⟩, .done)
  | .cancel i => do return (⟨s.handles, s.switches.cancel (← s.handles[i]?)⟩, .done)
  | .same i j => do
    let a ← s.handles[i]?
    let b ← s.handles[j]?
    return (s, .same (a = b))
  | .classify i text => do
    let flag ← s.handles[i]?
    return (s, .tokens (CwebHighlight.classify text (s.switches.signal flag)))

end FlagSession

end CwebHighlight
