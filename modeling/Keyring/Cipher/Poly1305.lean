import Keyring.Bytes

namespace Keyring.Poly1305

/-- The prime 5 below the power 130 of 2. -/
def modulus : Nat := 0x3fffffffffffffffffffffffffffffffb

/-- The multiplier with the bits cleared that a key must not set. -/
def clamp (r : Nat) : Nat :=
  r &&& 0x0ffffffc0ffffffc0ffffffc0fffffff

/-- The number that the first 16 bytes spell, least significant first; missing bytes are 0. -/
def number (bytes : Bytes) : Nat :=
  (word64OfLe bytes).toNat + 0x10000000000000000 * (word64OfLe (bytes.drop 8)).toNat

/-- Takes in a byte string in runs of 16 bytes, the last one filled up with zeros. -/
def absorb (r : Nat) (accumulator : Nat) (message : Bytes) : Nat :=
  match message with
  | [] => accumulator
  | first :: rest =>
    absorb r ((accumulator + number (first :: rest) + 0x100000000000000000000000000000000) * r % modulus)
      (rest.drop 15)
termination_by message.length

/-- The tag of a ciphertext with its associated data, under a one-time key of 32 bytes. -/
def tag (key aad ciphertext : Bytes) : Bytes :=
  let r := clamp (number key)
  let lengths := leOfNat 8 aad.length ++ leOfNat 8 ciphertext.length
  let sum := absorb r (absorb r (absorb r 0 aad) ciphertext) lengths
  leOfNat 16 (sum + number (key.drop 16))

@[simp]
theorem length_tag (key aad ciphertext : Bytes) : (tag key aad ciphertext).length = 16 := by
  simp [tag]

end Keyring.Poly1305
