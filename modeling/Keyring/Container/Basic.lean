import Keyring.Container.Header
import Keyring.Container.Reading

namespace Keyring

/-- A header and the packets after it. -/
structure Container where
  header : Header
  packets : List Packet
  deriving DecidableEq

/-- What could be read of a damaged container or of damaged packets. -/
structure Incomplete where
  /-- The header, if it was read. -/
  header : Option Header
  /-- The packets in front of the damage. -/
  packets : List Packet
  damage : Malformed
  deriving DecidableEq

def Incomplete.message (incomplete : Incomplete) : String :=
  s!"{incomplete.damage.message} ({incomplete.packets.length} packets decoded)"

/-- The packets of a reading that found no damage. -/
def Reading.complete (header : Option Header) (reading : Reading) :
    Except Incomplete (List Packet) :=
  match reading.damage with
  | none => .ok reading.packets
  | some damage => .error ⟨header, reading.packets, damage⟩

namespace Packet

/-- The packets that a byte string at `offset` consists of. -/
def parseAll (offset : Nat) (data : Bytes) : Except Incomplete (List Packet) :=
  (Reading.of offset data).complete none

/-- The packets one after the other. -/
def joined (packets : List Packet) : Bytes :=
  packets.flatMap bytes

end Packet

namespace Container

/-- The header's bytes, then those of the packets. -/
def bytes (container : Container) : Bytes :=
  container.header.bytes ++ Packet.joined container.packets

/-- The container that a byte string is. Only the magic byte of the header is checked. -/
def parse (data : Bytes) : Except Incomplete Container :=
  match Header.parse data with
  | .error damage => .error ⟨none, [], damage⟩
  | .ok header =>
    ((Reading.of Header.size (data.drop Header.size)).complete (some header)).map (⟨header, ·⟩)

end Container

end Keyring
