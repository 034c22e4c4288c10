import Keyring.Cipher.ChaCha
import Keyring.Cipher.Poly1305
import Keyring.World

namespace Keyring

/-- Why a message could not be sealed or opened. -/
inductive SealingError where
  | keyLength (actual : Nat)
  /-- Too short to hold a nonce and a tag. -/
  | truncated (actual : Nat)
  /-- More than one nonce can seal. -/
  | tooLong
  /-- Not sealed under this key, or changed since. -/
  | refused
  deriving DecidableEq, Repr

namespace SealingError

def message : SealingError → String
  | keyLength actual => s!"invalid key length: expected 32, got {actual}"
  | truncated actual => s!"sealed data truncated ({actual} < 40)"
  | tooLong => "encryption failed"
  | refused => "decryption failed"

/-- Whether the key or the message is not what it should be. -/
def isAuthentication (error : SealingError) : Bool :=
  error = refused

/-- The error with its fields, as a log shows it. -/
def detail : SealingError → String
  | keyLength actual => s!"InvalidKeyLength \x7b expected: 32, actual: {actual} \x7d"
  | truncated actual => s!"Truncated \x7b actual: {actual}, minimum: 40 \x7d"
  | tooLong => "EncryptionFailed"
  | refused => "DecryptionFailed"

end SealingError

namespace Sealing

def keyLength : Nat := 32

def nonceLength : Nat := 24

def tagLength : Nat := 16

/-- The length of a sealed message whose plain text has `length` bytes. -/
def sealedLength (length : Nat) : Nat :=
  nonceLength + length + tagLength

/-- Whether the block counter suffices for a message. -/
def withinCounter (message : Bytes) : Bool :=
  message.length / 64 < 0xffffffff

/-- The tag of a ciphertext. The authenticator's key is the front of the keystream's block 0. -/
def tag (key nonce aad ciphertext : Bytes) : Bytes :=
  Poly1305.tag (ChaCha.blockAt (ChaCha.start key nonce) 0) aad ciphertext

/-- The nonce, the ciphertext and the tag. -/
def envelope (key nonce plain aad : Bytes) : Bytes :=
  let ciphertext := ChaCha.apply key nonce plain
  nonce ++ (ciphertext ++ tag key nonce aad ciphertext)

/-- Seals a message under a given nonce. -/
def sealWith (key nonce plain aad : Bytes) : Except SealingError Bytes :=
  if key.length ≠ keyLength then .error (.keyLength key.length)
  else if withinCounter plain then .ok (envelope key nonce plain aad)
  else .error .tooLong

/-- The plain text of a sealed message. -/
def openWith (key message aad : Bytes) : Except SealingError Bytes :=
  if key.length ≠ keyLength then .error (.keyLength key.length)
  else if message.length < sealedLength 0 then .error (.truncated message.length)
  else
    let nonce := message.take nonceLength
    let body := message.drop nonceLength
    let (ciphertext, found) := body.splitAt (body.length - tagLength)
    if withinCounter ciphertext ∧ found = tag key nonce aad ciphertext then
      .ok (ChaCha.apply key nonce ciphertext)
    else .error .refused

/-- Seals a message under a nonce drawn for it. A key of the wrong length draws nothing. -/
def sealFresh (key plain aad : Bytes) : Action SealingError Bytes := do
  if key.length ≠ keyLength then
    Action.fail (.keyLength key.length)
  let nonce ← Action.draw .nonce nonceLength
  Action.ofExcept (sealWith key nonce plain aad)

/-- A new key of `length` bytes, and the same key sealed under `accessKey`. -/
def newSealedKey (accessKey : Bytes) (length : Nat) : Action SealingError (Bytes × Bytes) := do
  if accessKey.length ≠ keyLength then
    Action.fail (.keyLength accessKey.length)
  let key ← Action.draw .dataKey length
  let wrapped ← sealFresh accessKey key []
  return (key, wrapped)

end Sealing

end Keyring
