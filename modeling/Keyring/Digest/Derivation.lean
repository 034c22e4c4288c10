import Keyring.Digest.Hmac
import Keyring.World

namespace Keyring.Derivation

/-- The length of a new salt. -/
def saltLength : Nat := 32

/-- The rounds of a stretched key, unless others are asked for. -/
def defaultRounds : Nat := 4096

/-- `count` digests, each of which takes in the one before it and its own number. -/
def chain (secret previous : Bytes) (number : Nat) : Nat → Bytes
  | 0 => []
  | count + 1 =>
    let digest := Hmac.mac secret (previous ++ [number.toUInt8])
    digest ++ chain secret digest (number + 1) count

theorem length_chain (secret previous : Bytes) (number count : Nat) :
    (chain secret previous number count).length = 32 * count := by
  induction count generalizing previous number with
  | zero => rfl
  | succ count ih =>
    rw [chain, List.length_append, Hmac.length_mac, ih]
    omega

/-- A key of `length` bytes, extracted from a passphrase and a salt and then expanded. -/
def extracted (passphrase salt : Bytes) (length : Nat) : Bytes :=
  (chain (Hmac.mac salt passphrase) [] 1 ((length + 31) / 32)).take length

@[simp]
theorem length_extracted (passphrase salt : Bytes) (length : Nat) :
    (extracted passphrase salt length).length = length := by
  rw [extracted, List.length_take, length_chain]
  omega

/-- The extracted key, if the expansion reaches that far. -/
def extract (passphrase salt : Bytes) (length : Nat) : Except Fault Bytes :=
  if length ≤ maxDerived then .ok (extracted passphrase salt length)
  else .error (.derivedKeyTooLong length)

/-- The exclusive or of `rounds` digests, each of which is the digest of the one before it. -/
def stretchedBlock (passphrase salt : Bytes) (rounds : Nat) (number : Nat) : Bytes :=
  let first := Hmac.mac passphrase (salt ++ be32 number.toUInt32)
  (Nat.repeat
    (fun (pair : Bytes × Bytes) =>
      let next := Hmac.mac passphrase pair.1
      (next, xorBytes pair.2 next))
    (rounds - 1) (first, first)).2

/-- A key of `length` bytes that takes `rounds` digests for each 32 of them. -/
def stretched (passphrase salt : Bytes) (rounds length : Nat) : Bytes :=
  ((List.range ((length + 31) / 32)).flatMap fun i =>
    stretchedBlock passphrase salt rounds (i + 1)).take length

/-- The stretched key, if it can be held in memory. -/
def stretch (passphrase salt : Bytes) (rounds length : Nat) : Except Fault Bytes :=
  if lengthLimit ≤ length then .error .lengthOverflow
  else .ok (stretched passphrase salt rounds length)

/-- A salt drawn for one key. -/
def newSalt {ε : Type} : Action ε Bytes :=
  Action.draw .salt saltLength

/-- The access key of a passphrase under a new salt, and that salt. -/
def newAccessKey {ε : Type} (passphrase : Bytes) : Action ε (Bytes × Bytes) := do
  let salt ← newSalt
  return (extracted passphrase salt 32, salt)

/-- The stretched key of a passphrase under the salt, or under a new one, and that salt. -/
def stretchedKey {ε : Type} (passphrase : Bytes) (length : Nat) (salt : Option Bytes) :
    Action ε (Bytes × Bytes) := do
  let salt ←
    match salt with
    | some salt => pure salt
    | none => newSalt
  let key ← Action.orFault (stretch passphrase salt defaultRounds length)
  return (key, salt)

end Keyring.Derivation
