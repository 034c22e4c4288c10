import Keyring.Container.Basic
import Keyring.Container.Record

namespace Keyring

/-- One thing that can be put at the end of a container under construction. -/
inductive Part where
  | header (header : Header)
  | packet (packet : Packet)
  | active (id : Option KeyId)
  | entry (entry : Entry)

namespace Part

/-- The bytes that a part adds. -/
def encode : Part → Except Fault Bytes
  | .header opening => .ok opening.bytes
  | .packet unit => unit.encode
  | .active id => Packet.encode ⟨.active, ActiveRecord.content id⟩
  | .entry record => Packet.encode ⟨.entry, record.content⟩

/-- The bytes of the parts one after the other. -/
def encodeAll (parts : List Part) : Except Fault Bytes :=
  (parts.mapM encode).map joined

end Part

end Keyring
