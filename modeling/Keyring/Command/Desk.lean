import Keyring.Command.Passphrases
import Keyring.Command.Request
import Keyring.Command.Tree
import Keyring.Credential
import Keyring.Ring.Basic

namespace Keyring

/-- All that a command works with. -/
structure Desk where
  world : World
  tree : Tree
  passphrases : Passphrases
  /-- How many more bytes of answers go out, if not any number. -/
  answerRoom : Option Nat
  /-- How many more bytes of notes go out, if not any number. -/
  noteRoom : Option Nat

/-- An action at a desk, which can fail as commands do. -/
abbrev DeskAction (α : Type) := ActionOn Desk CommandError α

namespace Desk

/-- How a stream fails that takes no more. -/
def refusal : IoFailure := .other "sink failed"

/-- An action on the world of a desk. -/
def onWorld {α : Type} (action : Action CommandError α) : DeskAction α :=
  Action.onPart Desk.world (fun desk world => { desk with world := world }) action

/-- What a ring's action does, in the words of a command. -/
def onRing {α : Type} (action : RingAction α) : DeskAction α :=
  onWorld (Action.mapCause .ring action)

def log (event : Event) : DeskAction Unit :=
  onWorld (Action.log event)

/-- The part of some bytes that still goes out, what room is left then, and whether it was all. -/
def send (room : Option Nat) (data : Bytes) : Bytes × Option Nat × Except CommandError Unit :=
  let (taken, outcome) := Sink.take ⟨room, refusal⟩ data
  (taken, room.map (· - taken.length), outcome.mapError .io)

/-- Sends text out as part of the answer. -/
def print (text : String) : DeskAction Unit := do
  let desk ← get
  let (taken, room, outcome) := send desk.answerRoom (textBytes text)
  set { desk with answerRoom := room }
  onWorld (Action.record (.printed taken))
  Action.ofExcept outcome

/-- Sends text out beside the answer. -/
def note (text : String) : DeskAction Unit := do
  let desk ← get
  let (taken, room, outcome) := send desk.noteRoom (textBytes text)
  set { desk with noteRoom := room }
  onWorld (Action.record (.noted taken))
  Action.ofExcept outcome

/-- The next passphrase. It is asked for if there is someone to ask, and the prompt always goes out. -/
def askPassphrase (prompt : String) : DeskAction String := do
  let desk ← get
  if desk.passphrases.isInteractive then
    onWorld (Action.record (.prompted prompt))
  let (answer, left) := desk.passphrases.next
  modify fun desk => { desk with passphrases := left }
  Action.ofExcept answer

/-- A new passphrase, entered twice alike if there is someone to ask. -/
def newPassphrase (emptyOk : Bool) : DeskAction String := do
  let passphrase ← askPassphrase "New passphrase: "
  if passphrase.isEmpty ∧ !emptyOk then
    Action.fail .passphraseEmpty
  let desk ← get
  if desk.passphrases.isInteractive then
    let again ← askPassphrase "Confirm new passphrase: "
    if again ≠ passphrase then
      Action.fail .passphraseMismatch
  return passphrase

/-- The key that was asked for. -/
def newKey (choice : KeyChoice) : DeskAction Bytes :=
  match choice.text, choice.random with
  | some text, _ =>
    if text.isEmpty then Action.fail .keyEmpty else pure (textBytes text)
  | none, some 0 => Action.fail .randomLengthZero
  | none, some length => do
    let key ← onWorld (Ring.randomKey length)
    note s!"Generated {length}-byte random key\n"
    return key
  | none, none => Action.fail .keyMissing

/-- Takes the outcome of work on the file at a path. -/
def ofFile {α : Type} (path : String) (outcome : Except IoFailure α) : DeskAction α :=
  Action.ofExcept (outcome.mapError (.file path))

end Desk

end Keyring
