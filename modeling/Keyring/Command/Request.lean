import Keyring.Bytes

namespace Keyring

/-- Where a new key comes from, as it was asked for. -/
structure KeyChoice where
  /-- The key itself. -/
  text : Option String
  /-- The length of a random key. -/
  random : Option Nat
  deriving DecidableEq, Repr

/-- What a command line asks to be done. -/
inductive Request where
  | create (path : String) (key : KeyChoice)
  | list (path : String) (showKeys : Bool)
  | add (path : String) (key : KeyChoice) (activate : Bool)
  | activate (path : String) (id : KeyId)
  | rekey (path : String)
  /-- Shows the parts of a file, with the bundles opened if `decrypt` asks for it. -/
  | inspect (path : String) (decrypt : Bool)
  deriving DecidableEq, Repr

/-- The path that a request is about. -/
def Request.path : Request → String
  | create path _ | list path _ | add path _ _ | activate path _ | rekey path | inspect path _ =>
    path

/-- A request with the options that hold for every command. -/
structure Invocation where
  logLevel : String
  /-- Whether a new passphrase may be empty. -/
  emptyOk : Bool
  request : Request
  deriving DecidableEq, Repr

end Keyring
