import Keyring.Bytes

namespace Keyring

/-- The byte that says what a packet holds. Every value is legal. -/
structure PacketType where
  code : UInt8
  deriving DecidableEq, Repr

/-- What a packet is for. -/
inductive Role where
  | dataKey
  | salt
  | entry
  | active
  | bundle
  /-- Not defined; such packets are carried along as they are. -/
  | unknown
  deriving DecidableEq, Repr

/-- The name of a defined role. -/
def Role.name? : Role → Option String
  | dataKey => some "DATA_KEY"
  | salt => some "ACCESS_KEY_SALT"
  | entry => some "KEYRING_ENTRY"
  | active => some "ACTIVE_KEY_ID"
  | bundle => some "BUNDLE"
  | unknown => none

namespace PacketType

/-- The data key, sealed under the access key. -/
def dataKey : PacketType := ⟨2⟩

/-- The salt from which the access key is made. -/
def salt : PacketType := ⟨3⟩

/-- A key with its id. -/
def entry : PacketType := ⟨4⟩

/-- The id of the active key. -/
def active : PacketType := ⟨5⟩

/-- Packets sealed under the data key. -/
def bundle : PacketType := ⟨6⟩

def role (type : PacketType) : Role :=
  if type = dataKey then .dataKey
  else if type = salt then .salt
  else if type = entry then .entry
  else if type = active then .active
  else if type = bundle then .bundle
  else .unknown

def name? (type : PacketType) : Option String :=
  type.role.name?

def isKnown (type : PacketType) : Bool :=
  type.role ≠ .unknown

/-- The name of the type, or its code if it has none. -/
def label (type : PacketType) : String :=
  type.name?.getD s!"UNKNOWN_TYPE_{type.code.toNat}"

end PacketType

end Keyring
