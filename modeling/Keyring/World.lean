import Keyring.Log.Event
import Keyring.Supply

namespace Keyring

/-- What random bytes are drawn for. -/
inductive Purpose where
  | dataKey
  | storedKey
  | salt
  | nonce
  deriving DecidableEq, Repr

/-- A thing that was done to the world outside, as it is kept on record. -/
inductive Mark where
  | event (event : Event)
  /-- `count` random bytes were drawn from position `start` of the stream on. -/
  | drew (purpose : Purpose) (start count : Nat)
  /-- A credential was asked for its key. -/
  | asked (salt : Bytes)
  /-- Bytes went out as the answer to a command. -/
  | printed (bytes : Bytes)
  /-- Bytes went out beside the answer. -/
  | noted (bytes : Bytes)
  /-- A passphrase was asked for. -/
  | prompted (text : String)

/-- The supply of random bytes, and the record of what has been done, in order. -/
structure World where
  supply : Supply
  trace : Array Mark

/-- How an action can fail. -/
inductive Failure (ε : Type) where
  /-- For a cause that the caller is told. -/
  | error (cause : ε)
  /-- For a broken demand. -/
  | fault (fault : Fault)

/-- An action on a state, whose effects last even if it fails. -/
abbrev ActionOn (σ ε α : Type) := EStateM (Failure ε) σ α

/-- An action on the world. -/
abbrev Action (ε α : Type) := ActionOn World ε α

namespace Action

variable {σ τ ε ε' α : Type}

/-- Fails for a cause. -/
def fail (cause : ε) : ActionOn σ ε α :=
  throw (.error cause)

/-- The value, or failure for the cause that stands in its place. -/
def ofExcept (value : Except ε α) : ActionOn σ ε α :=
  match value with
  | .ok value => pure value
  | .error cause => fail cause

/-- The value, or the fault that stands in its place. -/
def orFault (value : Except Fault α) : ActionOn σ ε α :=
  match value with
  | .ok value => pure value
  | .error fault => throw (.fault fault)

/-- The same action with its causes of failure put in other words. -/
def mapCause (f : ε → ε') (action : ActionOn σ ε α) : ActionOn σ ε' α := fun state =>
  match action state with
  | .ok value later => .ok value later
  | .error (.error cause) later => .error (.error (f cause)) later
  | .error (.fault fault) later => .error (.fault fault) later

/-- An action on a part of the state. -/
def onPart (get : τ → σ) (set : τ → σ → τ) (action : ActionOn σ ε α) : ActionOn τ ε α := fun state =>
  match action (get state) with
  | .ok value later => .ok value (set state later)
  | .error failure later => .error failure (set state later)

/-- Keeps a mark on record. -/
def record (mark : Mark) : Action ε Unit :=
  modify fun world => { world with trace := world.trace.push mark }

def log (event : Event) : Action ε Unit :=
  record (.event event)

/-- The next `count` random bytes. -/
def draw (purpose : Purpose) (count : Nat) : Action ε Bytes := do
  let world ← get
  let (bytes, supply) ← orFault (world.supply.take count)
  set { world with supply := supply }
  record (.drew purpose world.supply.drawn count)
  return bytes

end Action

end Keyring
