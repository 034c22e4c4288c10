import Keyring.Credential
import Keyring.Ring.Error
import Keyring.Ring.Snapshot

namespace Keyring

/-- What a new keyring is made from. -/
structure Config where
  initialKey : Bytes
  accessKey : Bytes
  salt : Option Bytes

/-- What may be said of a configuration: lengths, and the salt. -/
def Config.summary (config : Config) : String :=
  let salt :=
    match config.salt with
    | none => "None"
    | some salt =>
      "Some([" ++ String.intercalate ", " (salt.map fun (byte : UInt8) => toString byte.toNat) ++ "])"
  s!"Config \x7b initial_key_len: {config.initialKey.length}, " ++
    s!"access_key_len: {config.accessKey.length}, access_key_salt: {salt} \x7d"

/-- A keyring at work. -/
structure Ring where
  header : Header
  /-- The salt from which the access key is made. -/
  salt : Bytes
  /-- The data key as it is stored, sealed under the access key. -/
  wrappedKey : Bytes
  dataKey : Secret
  view : Snapshot
  /-- The largest id that has been given out. -/
  maxId : KeyId
  /-- Unknown packets of the container. -/
  extras : List Packet
  /-- Unknown packets of the bundle. -/
  bundleExtras : List Packet

/-- An action on the world that can fail as keyrings do. -/
abbrev RingAction (α : Type) := Action RingError α

namespace Ring

/-- The length of a data key. -/
def dataKeyLength : Nat := 32

def maxKeyId : KeyId := 4294967295

/-- Refuses an access key of the wrong length. -/
def checkAccessKey (key : Bytes) : RingAction Unit :=
  if key.length = Credential.keyLength then pure ()
  else Action.fail (.accessKeyLength key.length)

/-- A keyring with one key, under a new data key. -/
def new (config : Config) : RingAction Ring := do
  checkAccessKey config.accessKey
  if config.initialKey.isEmpty then
    Action.fail .initialKeyEmpty
  let (dataKey, wrappedKey) ←
    Action.mapCause .ofSealing (Sealing.newSealedKey config.accessKey dataKeyLength)
  Action.log (.ofRing .debug "created keyring" [("salted", toString config.salt.isSome)])
  return {
    header := .current
    salt := config.salt.getD []
    wrappedKey := wrappedKey
    dataKey := ⟨dataKey⟩
    view := .single config.initialKey
    maxId := 1
    extras := []
    bundleExtras := [] }

def length (ring : Ring) : Nat :=
  ring.view.length

def isEmpty (ring : Ring) : Bool :=
  ring.view.isEmpty

def activeId (ring : Ring) : KeyId :=
  ring.view.activeId

def has (ring : Ring) (id : KeyId) : Bool :=
  ring.view.has id

/-- Whether a key opens the stored data key. -/
def hasAccessKey (ring : Ring) (key : Bytes) : Bool :=
  match Sealing.openWith key ring.wrappedKey [] with
  | .ok dataKey => dataKey = ring.dataKey.bytes
  | .error _ => false

/-- Stores a key under the next id. The active key stays the same. -/
def add (ring : Ring) (key : Bytes) : RingAction (KeyId × Ring) := do
  if key.isEmpty then
    throw (.fault .keyEmpty)
  if ring.maxId = maxKeyId then
    throw (.fault .idsExhausted)
  let id := ring.maxId + 1
  Action.log (.ofRing .debug "added key" [("id", toString id.toNat)])
  return (id, { ring with view := ring.view.insert ⟨id, key⟩, maxId := id })

/-- A random key of `length` bytes. -/
def randomKey {ε : Type} (length : Nat) : Action ε Bytes := do
  if length = 0 then
    throw (.fault .randomKeyEmpty)
  Action.draw .storedKey length

/-- Stores a random key of `length` bytes under the next id. -/
def addRandom (ring : Ring) (length : Nat) : RingAction (KeyId × Ring) := do
  let key ← randomKey length
  ring.add key

/-- Makes a stored key the active one. -/
def activate (ring : Ring) (id : KeyId) : RingAction Ring := do
  let view ← Action.orFault (ring.view.activate id)
  Action.log (.ofRing .debug "activated key" [("id", toString id.toNat)])
  return { ring with view := view }

/-- Seals the data key under another access key. The salt stays unless a new one is given. -/
def rekey (ring : Ring) (accessKey : Bytes) (salt : Option Bytes) : RingAction Ring := do
  checkAccessKey accessKey
  let wrappedKey ←
    Action.mapCause .ofSealing (Sealing.sealFresh accessKey ring.dataKey.bytes [])
  Action.log (.ofRing .debug "rekeyed" [("new_salt", toString salt.isSome)])
  return { ring with wrappedKey := wrappedKey, salt := salt.getD ring.salt }

/-- What may be said of a ring. -/
def summary (ring : Ring) : String :=
  s!"Ring \x7b keys: {ring.length}, active: {ring.activeId.toNat}, " ++
    s!"max_id: {ring.maxId.toNat}, .. \x7d"

end Ring

end Keyring
