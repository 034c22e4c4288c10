import Keyring.Digest.Keccak

namespace Keyring.Hmac

/-- The key as one run of `Keccak.rate` bytes: hashed first if it is longer, then filled up with zeros. -/
def keyRun (key : Bytes) : Bytes :=
  let short := if key.length ≤ Keccak.rate then key else Keccak.digest key
  short ++ List.replicate (Keccak.rate - short.length) 0

/-- The keyed digest of a message. -/
def mac (key message : Bytes) : Bytes :=
  let run := keyRun key
  let inner := Keccak.digest (run.map (· ^^^ 0x36) ++ message)
  Keccak.digest (run.map (· ^^^ 0x5c) ++ inner)

@[simp]
theorem length_mac (key message : Bytes) : (mac key message).length = 32 := by
  simp [mac]

end Keyring.Hmac
