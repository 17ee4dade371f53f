import CardTerminal.Driver

/-!
What a slot holds of a protocol: an engine, until an exchange leaves it unusable.
-/

namespace CardTerminal

/-- The same exchange with another engine. -/
def Exchange.mapEngine {α ε ε' σ : Type} (f : ε → ε') (x : Exchange α ε σ) : Exchange α ε' σ :=
  ⟨x.outcome, f x.engine, x.device⟩

/-- An exchange that always comes to an end. -/
def Exchange.ended {ε σ : Type} (x : Exchange Ended ε σ) : Exchange (Option Ended) ε σ :=
  ⟨some x.outcome, x.engine, x.device⟩

namespace Engine

variable {σ : Type}

/-- An exchange that the reader itself runs; what it refuses leaves nothing behind. -/
def delegate (engine : Engine) (call : Action σ Bytes) (s : σ) : Exchange (Option Ended) Engine σ :=
  match call s with
  | .ok answer s => ⟨some (.ok answer), engine, s⟩
  | .error e s => ⟨some (.error (.failed e)), engine, s⟩

/-- Exchange one command with the card in a slot. -/
def transceive (driver : Driver σ) (slot : Nat) (command : Bytes) (engine : Engine) (s : σ) :
    Exchange (Option Ended) Engine σ :=
  match engine with
  | .t0 t => (t.transceive driver.toLink command s).mapEngine .t0
  | .t1 t => (t.transceive driver.toLink command s).mapEngine .t1
  | .gbp g => (g.transceive driver.toLink command s).ended.mapEngine .gbp
  | .transparent => engine.delegate (driver.transparent slot command) s
  | .escape => engine.delegate (driver.escape slot command) s
  | .memory _ => ⟨some (.error (.failed .notSupported)), engine, s⟩

end Engine

/-- What a slot holds of a protocol. -/
inductive Handle where
  | active (engine : Engine)
  /-- Host and card lost each other; only a reset helps. -/
  | lost (id : ProtocolId)
  deriving DecidableEq, Repr

namespace Handle

variable {σ : Type}

def id : Handle → ProtocolId
  | .active engine => engine.id
  | .lost id => id

def isLost : Handle → Bool
  | .active _ => false
  | .lost _ => true

def engine? : Handle → Option Engine
  | .active engine => some engine
  | .lost _ => none

/-- The handle after an exchange. -/
def after (x : Exchange (Option Ended) Engine σ) : Handle :=
  match x.outcome with
  | some (.error fault) => if fault.isFatal then .lost x.engine.id else .active x.engine
  | _ => .active x.engine

/-- Exchange one command with the card in a slot; there is no outcome if the exchange went on for as
long as it was followed. A handle without engine calls nothing. -/
def transceive (driver : Driver σ) (slot : Nat) (command : Bytes) (handle : Handle) (s : σ) :
    Option (Except Error Bytes) × Handle × σ :=
  match handle with
  | .lost id => (some (.error .commError), .lost id, s)
  | .active engine =>
    let x := engine.transceive driver slot command s
    (x.outcome.map (·.mapError Fault.cause), after x, x.device)

/-- The handle as an answer to reset asks for it. -/
def configure (info : Atr.Info) : Handle → Handle
  | .active engine => .active (engine.configure info)
  | .lost id => .lost id

end Handle

end CardTerminal
