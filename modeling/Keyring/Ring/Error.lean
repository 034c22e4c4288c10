import Keyring.Cipher.Sealing
import Keyring.Container.Basic
import Keyring.Stream

namespace Keyring

/-- Why a keyring could not be made, read, changed or written. -/
inductive RingError where
  | accessKeyLength (actual : Nat)
  | initialKeyEmpty
  | version (found : UInt8)
  | reserved (found : UInt8 × UInt8)
  | missing (type : PacketType)
  | duplicate (type : PacketType)
  | unexpected (type : PacketType)
  | dataKeyLength (actual : Nat)
  | duplicateId (id : KeyId)
  /-- The id on record as active is not among the keys. -/
  | activeUnknown (id : KeyId)
  | noKeys
  /-- Not sealed under the key at hand, or changed since. -/
  | refused
  | malformed (cause : Malformed)
  | sealing (cause : SealingError)
  | io (cause : IoFailure)
  deriving DecidableEq, Repr

namespace RingError

/-- A sealing error in the words of the ring. -/
def ofSealing : SealingError → RingError
  | .refused => .refused
  | cause => .sealing cause

/-- Two bytes in brackets. -/
def bracketed (bytes : UInt8 × UInt8) : String :=
  "[" ++ String.ofList (Hex.ofByte bytes.1) ++ ", " ++ String.ofList (Hex.ofByte bytes.2) ++ "]"

def message : RingError → String
  | accessKeyLength actual => s!"access key is {actual} bytes, want 32"
  | initialKeyEmpty => "initial key is empty"
  | version found => s!"unsupported keyring version {found.toNat}"
  | reserved found => s!"reserved header bytes are not zero ({bracketed found})"
  | missing type => s!"missing {type.label} packet"
  | duplicate type => s!"duplicate {type.label} packet"
  | unexpected type => s!"unexpected {type.label} packet"
  | dataKeyLength actual => s!"data key is {actual} bytes, want 32"
  | duplicateId id => s!"duplicate key ID {id.toNat}"
  | activeUnknown id => s!"active key ID {id.toNat} not found"
  | noKeys => "keyring has no keys"
  | refused => SealingError.refused.message
  | malformed cause => cause.message
  | sealing cause => cause.message
  | io cause => s!"I/O error: {cause.message}"

/-- Whether the access key is not the right one, or a sealed part was changed. -/
def isAuthentication (error : RingError) : Bool :=
  error = refused

/-- Whether the bytes cannot be a keyring, whatever the access key. -/
def isCorruption : RingError → Bool
  | version _ | reserved _ | missing _ | duplicate _ | unexpected _ | dataKeyLength _
  | duplicateId _ | activeUnknown _ | noKeys | malformed _ | sealing (.truncated _) => true
  | _ => false

/-- The error with its fields, as a log shows it. -/
def detail : RingError → String
  | accessKeyLength actual => s!"InvalidAccessKeyLength \x7b expected: 32, actual: {actual} \x7d"
  | initialKeyEmpty => "EmptyInitialKey"
  | version found => s!"UnsupportedVersion({found.toNat})"
  | reserved found => s!"NonZeroReserved([{found.1.toNat}, {found.2.toNat}])"
  | missing type => s!"MissingPacket(PacketType({type.code.toNat}))"
  | duplicate type => s!"DuplicatePacket(PacketType({type.code.toNat}))"
  | unexpected type => s!"UnexpectedPacket(PacketType({type.code.toNat}))"
  | dataKeyLength actual => s!"InvalidDataKeyLength \x7b expected: 32, actual: {actual} \x7d"
  | duplicateId id => s!"DuplicateKeyId({id.toNat})"
  | activeUnknown id => s!"UnknownActiveKey({id.toNat})"
  | noKeys => "NoKeys"
  | refused => "DecryptionFailed"
  | malformed cause => s!"Protocol({cause.detail})"
  | sealing cause => s!"Cipher({cause.detail})"
  | io cause => s!"Io({cause.detail})"

end RingError

end Keyring
