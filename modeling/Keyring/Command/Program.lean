import Keyring.Command.Arguments
import Keyring.Command.Session
import Keyring.Log.Filter

namespace Keyring

/-- What the program is started with. Its words and the environment are text, and its input does not come from a
terminal. -/
structure Launch where
  words : List String
  /-- The passphrase that the environment holds. -/
  passphrase : Option String
  /-- The log filter that the environment holds. -/
  logFilter : Option String
  input : Bytes

/-- What the program leaves behind. -/
structure Ending where
  code : Nat
  output : Bytes
  errors : Bytes
  tree : Tree

namespace Program

/-- The variable of the environment that can hold the passphrase. -/
def passphraseVariable : String := "KEYRING_PASSPHRASE"

/-- The variable of the environment that can hold the log filter. -/
def filterVariable : String := "RUST_LOG"

/-- As many random bytes as a request can use up: a stored key, a salt, a data key, two nonces. -/
def randomNeed : Request → Nat
  | .create _ choice | .add _ choice _ =>
    choice.random.getD 0 + Derivation.saltLength + Ring.dataKeyLength + 2 * Sealing.nonceLength
  | _ => Derivation.saltLength + Ring.dataKeyLength + 2 * Sealing.nonceLength

/-- The filter in force, and what is said of the parts of it that make no sense. The environment
goes before the command line, if all of it makes sense. -/
def chooseFilter (environment : Option String) (level : String) :
    Except Fault (Filter × List String) :=
  match environment.map Filter.parse with
  | some (.ok filter) => .ok (filter, [])
  | some (.error (.fault fault)) => .error fault
  | _ => Filter.lenient level

/-- What a mark leaves on the stream of answers. -/
def outputOf : Mark → Bytes
  | .printed bytes => bytes
  | _ => []

/-- What a mark leaves on the stream of notes, prompts and log lines. -/
def errorsOf (filter : Filter) : Mark → Bytes
  | .noted bytes => bytes
  | .prompted text => textBytes text
  | .event event => if filter.admits event then textBytes event.line else []
  | _ => []

/-- The passphrases of a launch. -/
def passphrasesOf (launch : Launch) : Passphrases :=
  match launch.passphrase with
  | some text => .fixed text
  | none => .lines launch.input

/-- What is told of a failed command. -/
def failed (cause : CommandError) : Event :=
  ⟨.debug, "keyring", "command failed", [("error", cause.detail)]⟩

/-- The status after a fault. -/
def faultCode : Nat := 101

/-- The status, the last words and the desk after a command. -/
def conclude : EStateM.Result (Failure CommandError) Desk Unit → Nat × List Mark × Desk
  | .ok () desk => (0, [], desk)
  | .error (.error cause) desk =>
    (if cause.isUsage then 2 else 1,
      [.event (failed cause), .noted (textBytes s!"keyring: {cause.message}\n")], desk)
  | .error (.fault fault) desk =>
    (faultCode, [.noted (textBytes (fault.message ++ "\n"))], desk)

/-- Runs a command under a filter. -/
def runUnder (filter : Filter) (complaints : List String) (launch : Launch)
    (invocation : Invocation) (supply : Supply) (tree : Tree) : Ending :=
  let desk : Desk := ⟨⟨supply, #[]⟩, tree, passphrasesOf launch, none, none⟩
  let (code, lastWords, desk) := conclude (Session.run invocation.emptyOk invocation.request desk)
  let marks := desk.world.trace.toList ++ lastWords
  { code := code
    output := marks.flatMap outputOf
    errors := textBytes (String.join complaints) ++ marks.flatMap (errorsOf filter)
    tree := desk.tree }

/-- Runs the program on a tree. -/
def run (launch : Launch) (supply : Supply) (tree : Tree) : Except UsageError Ending := do
  let invocation ← Invocation.parse launch.words
  match chooseFilter launch.logFilter invocation.logLevel with
  | .ok (filter, complaints) => return runUnder filter complaints launch invocation supply tree
  | .error fault => return ⟨faultCode, [], textBytes (fault.message ++ "\n"), tree⟩

end Program

end Keyring
