import Keyring.Bytes

namespace Keyring

/-- A demand that no caller may make, or a loss that no caller can make good. -/
inductive Fault where
  /-- The supply of random bytes has run out. -/
  | randomness
  /-- An offset has left the range of 64 bits. -/
  | offsetOverflow
  /-- A length is above what memory can hold. -/
  | lengthOverflow
  /-- A text is cut at a byte within a character. -/
  | characterCut (index : Nat)
  | packetTooBig (length : Nat)
  | derivedKeyTooLong (length : Nat)
  | keyEmpty
  | randomKeyEmpty
  | idsExhausted
  | noSuchKey (id : KeyId)
  deriving DecidableEq, Repr

/-- The length that nothing in memory reaches. -/
def lengthLimit : Nat := 0x8000000000000000

/-- The longest key that one extraction can be expanded to: 255 digests. -/
def maxDerived : Nat := 255 * 32

/-- The text of a fault. -/
def Fault.message : Fault → String
  | randomness =>
    "invariant: OS RNG failure is unrecoverable - keys and nonces would be predictable: RngFailure"
  | offsetOverflow => "attempt to add with overflow"
  | lengthOverflow => "capacity overflow"
  | characterCut index => s!"byte index {index} is not a char boundary"
  | packetTooBig length => s!"keyring: packet too big ({length} > {max24})"
  | derivedKeyTooLong length => s!"keyring: hkdf output too long ({length} > {maxDerived})"
  | keyEmpty => "keyring: key is empty"
  | randomKeyEmpty => "keyring: invalid random key length 0"
  | idsExhausted => "keyring: key ID space exhausted"
  | noSuchKey id => s!"keyring: no such key: {id.toNat}"

end Keyring
