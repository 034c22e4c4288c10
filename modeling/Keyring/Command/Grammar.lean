import Keyring.Command.Request

namespace Keyring

/-- Why a command line cannot be taken, or need not be. -/
inductive UsageError where
  /-- Help is asked for. -/
  | help
  /-- The version is asked for. -/
  | version
  /-- Nothing is asked for, so help is given. -/
  | helpInstead
  | commandMissing
  | commandUnknown
  | argumentUnknown
  /-- No value, or an empty one where that is not allowed. -/
  | valueMissing
  /-- A value that is not what it should be. -/
  | valueInvalid
  /-- A value for an option that takes none. -/
  | valueExcess
  /-- Two arguments that exclude each other, or one that is given twice. -/
  | conflict
  | argumentMissing
  deriving DecidableEq, Repr

/-- The status that the program ends with. -/
def UsageError.exitCode : UsageError → Nat
  | help | version => 0
  | _ => 2

/-- What can be given on a command line. -/
inductive Argument where
  | logLevel
  | emptyOk
  | random
  | showKeys
  | activates
  | decrypt
  | path
  | key
  | id
  deriving DecidableEq, Repr

/-- The words that choose a command. -/
inductive Verb where
  | create
  | list
  | add
  | activate
  | rekey
  | debug
  | parse
  deriving DecidableEq, Repr

/-- What may be given at one level of a command line: at the top, or after a verb. -/
structure Layout where
  /-- Long options without a value. -/
  flags : List (String × Argument)
  /-- Long options with a value. -/
  options : List (String × Argument)
  /-- The arguments without a name, in order. -/
  slots : List Argument
  /-- Whether the version can be asked for. -/
  hasVersion : Bool
  verbs : List (String × Verb)

namespace Layout

/-- A level with its own flags, options and slots besides what every level takes. -/
def leaf (flags options : List (String × Argument)) (slots : List Argument) : Layout :=
  ⟨("empty-ok", .emptyOk) :: flags, ("log-level", .logLevel) :: options, slots, false, []⟩

/-- A level that only chooses a verb. -/
def branch (hasVersion : Bool) (verbs : List (String × Verb)) : Layout :=
  ⟨[("empty-ok", .emptyOk)], [("log-level", .logLevel)], [], hasVersion, verbs⟩

def top : Layout :=
  branch true
    [("create", .create), ("list", .list), ("add", .add), ("activate", .activate),
      ("rekey", .rekey), ("debug", .debug)]

/-- The level after a verb. -/
def after : Verb → Layout
  | .create => leaf [] [("random", .random)] [.path, .key]
  | .list => leaf [("show-keys", .showKeys)] [] [.path]
  | .add => leaf [("activate", .activates)] [("random", .random)] [.path, .key]
  | .activate => leaf [] [] [.path, .id]
  | .rekey => leaf [] [] [.path]
  | .debug => branch false [("parse", .parse)]
  | .parse => leaf [("decrypt", .decrypt)] [] [.path]

/-- The slots that must be filled. -/
def required (layout : Layout) : List Argument :=
  layout.slots.filter (· ≠ .key)

end Layout

/-- A number in decimal digits, perhaps after a plus sign. -/
def decimal? (text : String) : Option Nat :=
  let digits :=
    match text.toList with
    | '+' :: rest => rest
    | chars => chars
  if digits.isEmpty ∨ !digits.all Char.isDigit then none
  else some (digits.foldl (fun n c => n * 10 + (c.toNat - 48)) 0)

namespace Argument

/-- The lengths of random keys that can be asked for. -/
def lengthLimit : Nat := 0x10000000000000000

/-- The length of a random key. -/
def length? (text : String) : Option Nat :=
  (decimal? text).filter (· < lengthLimit)

/-- The id of a key. -/
def id? (text : String) : Option KeyId :=
  ((decimal? text).filter fun n => 0 < n ∧ n < 0x100000000).map Nat.toUInt32

/-- Refuses a value that is not what the argument stands for. -/
def check (argument : Argument) (value : String) : Except UsageError Unit :=
  match argument with
  | random => if (length? value).isSome then .ok () else .error .valueInvalid
  | id => if (id? value).isSome then .ok () else .error .valueInvalid
  | path => if value.isEmpty then .error .valueMissing else .ok ()
  | _ => .ok ()

end Argument

end Keyring
