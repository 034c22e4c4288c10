import Keyring.Ring.Error
import Keyring.Text.Quoted

namespace Keyring

/-- Why a command failed. -/
inductive CommandError where
  | ring (cause : RingError)
  | malformed (cause : Malformed)
  /-- A stream failed. -/
  | io (cause : IoFailure)
  /-- A file failed. -/
  | file (path : String) (cause : IoFailure)
  | alreadyThere (path : String)
  | keyEmpty
  | keyMissing
  | randomLengthZero
  | noSuchKey (id : KeyId)
  | passphraseEmpty
  | passphraseMismatch
  | noPassphrase
  /-- There are bundles to open, but no data key. -/
  | noDataKey
  /-- The data key could not be opened. -/
  | unlock (cause : RingError)
  /-- The packet of this number could not be opened. -/
  | packet (index : Nat) (cause : RingError)
  deriving DecidableEq, Repr

namespace CommandError

def message : CommandError → String
  | ring cause => cause.message
  | malformed cause => cause.message
  | io cause => s!"I/O error: {cause.message}"
  | file path cause => s!"{path}: {cause.message}"
  | alreadyThere path => s!"{path} already exists"
  | keyEmpty => "a key cannot be empty"
  | keyMissing => "a key or --random is required"
  | randomLengthZero => "random key length must be positive"
  | noSuchKey id => s!"no key with id {id.toNat} in keyring"
  | passphraseEmpty => "empty passphrase"
  | passphraseMismatch => "passphrases do not match"
  | noPassphrase => "no passphrase provided"
  | noDataKey => "no data key found for encrypted bundles"
  | unlock cause => s!"invalid access key: {cause.message}"
  | packet index cause => s!"decrypt packet {index}: {cause.message}"

/-- Whether the command was asked for in a way that makes no sense. -/
def isUsage : CommandError → Bool
  | keyEmpty | keyMissing | randomLengthZero => true
  | _ => false

/-- The error with its fields, as a log shows it. -/
def detail : CommandError → String
  | ring cause => s!"Keyring({cause.detail})"
  | malformed cause => s!"Protocol({cause.detail})"
  | io cause => s!"Io({cause.detail})"
  | file path cause =>
    s!"File \x7b path: {Quoted.ofString path}, source: {cause.detail} \x7d"
  | alreadyThere path => s!"AlreadyExists({Quoted.ofString path})"
  | keyEmpty => "EmptyKey"
  | keyMissing => "MissingKey"
  | randomLengthZero => "ZeroRandomLength"
  | noSuchKey id => s!"NoSuchKey({id.toNat})"
  | passphraseEmpty => "EmptyPassphrase"
  | passphraseMismatch => "PassphraseMismatch"
  | noPassphrase => "NoPassphrase"
  | noDataKey => "NoDataKey"
  | unlock cause => s!"Unlock({cause.detail})"
  | packet index cause => s!"DecryptPacket \x7b index: {index}, source: {cause.detail} \x7d"

end CommandError

end Keyring
