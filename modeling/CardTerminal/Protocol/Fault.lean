import CardTerminal.Bytes
import CardTerminal.Error

/-!
How an exchange with a card ends, and what is left of the engine that ran it.
-/

namespace CardTerminal

/-- Why an exchange failed. -/
inductive Fault where
  /-- The request was refused; host and card still agree. -/
  | failed (cause : Error)
  /-- Host and card no longer agree; the engine has to be given up. -/
  | lost (cause : Error)
  deriving DecidableEq, Repr

/-- What a fault means to the caller. -/
def Fault.cause : Fault → Error
  | .failed cause | .lost cause => cause

/-- Whether the engine has to be given up. -/
def Fault.isFatal : Fault → Bool
  | .failed _ => false
  | .lost _ => true

/-- How an exchange ended. -/
abbrev Ended : Type :=
  Except Fault Bytes

/-- What an exchange came to, the engine and the device. An exchange that may go on for ever comes
to an `Option Ended`: there is none if it went on for as long as it was followed. -/
structure Exchange (α ε σ : Type) where
  outcome : α
  engine : ε
  device : σ

end CardTerminal
