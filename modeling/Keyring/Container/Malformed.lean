import Keyring.Text.Hex

namespace Keyring

/-- Why bytes are not what the format allows. -/
inductive Malformed where
  /-- Fewer bytes than a container header. -/
  | shortHeader (actual : Nat)
  /-- The first byte is not the one that every container starts with. -/
  | magic (byte : UInt8)
  /-- Fewer bytes than a packet header at `offset`. -/
  | shortPacketHeader (offset : Nat)
  /-- The content that starts at `offset` is shorter than its header says. -/
  | shortPacket (offset expected actual : Nat)
  /-- An entry that is shorter than an id. -/
  | shortEntry (actual : Nat)
  /-- The id 0, which no key has. -/
  | zeroId
  /-- A record of the active id that is neither empty nor four bytes. -/
  | activeLength (actual : Nat)
  deriving DecidableEq, Repr

namespace Malformed

def message : Malformed → String
  | shortHeader actual => s!"invalid keyring: header truncated ({actual} < 4)"
  | magic byte => "invalid keyring: invalid magic byte 0x" ++ String.ofList (Hex.ofByte byte)
  | shortPacketHeader offset => s!"offset {offset}: truncated packet header"
  | shortPacket offset expected actual =>
    s!"offset {offset}: truncated packet ({actual} < {expected})"
  | shortEntry actual => s!"key truncated ({actual} < 4)"
  | zeroId => "invalid key ID"
  | activeLength actual => s!"wrong active key length ({actual} ≠ 4)"

/-- Whether the bytes may only have been cut short. -/
def isTruncation : Malformed → Bool
  | shortHeader _ | shortPacketHeader _ | shortPacket _ _ _ | shortEntry _ => true
  | magic _ | zeroId | activeLength _ => false

/-- The error with its fields, as a log shows it. -/
def detail : Malformed → String
  | shortHeader actual => s!"HeaderTruncated \x7b expected: 4, actual: {actual} \x7d"
  | magic byte => s!"InvalidMagic({byte.toNat})"
  | shortPacketHeader offset => s!"TruncatedPacketHeader \x7b offset: {offset} \x7d"
  | shortPacket offset expected actual =>
    s!"TruncatedPacket \x7b offset: {offset}, expected: {expected}, actual: {actual} \x7d"
  | shortEntry actual => s!"KeyTruncated \x7b actual: {actual} \x7d"
  | zeroId => "InvalidKeyId"
  | activeLength actual => s!"ActiveKeyLength({actual})"

end Malformed

end Keyring
