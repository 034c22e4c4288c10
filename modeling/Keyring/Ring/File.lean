import Keyring.Ring.Bundle

namespace Keyring

/-- What a sink took of a keyring, and how many bytes were written if it took them all. -/
structure Delivery where
  received : Bytes
  written : Except IoFailure Nat

namespace Ring

/-- Goes through the packets of a container and stops at the first that may not stand there.
`seen` holds the roles that may not come again. -/
def inspect (seen : List Role) : List Packet → RingAction Unit
  | [] => pure ()
  | packet :: rest =>
    match packet.type.role with
    | .unknown => do
      Action.log (.ofRing .warn "keeping unknown packet" [("packet_type", packet.type.label)])
      inspect seen rest
    | .entry | .active => Action.fail (.unexpected packet.type)
    | role =>
      if role ∈ seen then Action.fail (.duplicate packet.type) else inspect (role :: seen) rest

/-- The content of the first packet of a type. -/
def content? (type : PacketType) (packets : List Packet) : Option Bytes :=
  (packets.find? (·.type = type)).map Packet.content

/-- The container that a byte string is, if its header can be interpreted. -/
def parseSupported (data : Bytes) : RingAction Container := do
  let container ←
    Action.ofExcept ((Container.parse data).mapError fun stopped => .malformed stopped.damage)
  if container.header.version ≠ Header.currentVersion then
    Action.fail (.version container.header.version)
  if container.header.reserved ≠ (0, 0) then
    Action.fail (.reserved container.header.reserved)
  return container

/-- The content of the one packet of a type. -/
def required (type : PacketType) (packets : List Packet) : RingAction Bytes :=
  match content? type packets with
  | some content => pure content
  | none => Action.fail (.missing type)

/-- The access key that a credential has for a salt. -/
def ask (credential : Credential) (salt : Bytes) : RingAction Bytes := do
  Action.record (.asked salt)
  let key := credential.key salt
  checkAccessKey key
  return key

/-- Opens a sealed packet's content. -/
def openContent (key content : Bytes) : RingAction Bytes :=
  Action.ofExcept ((Sealing.openWith key content []).mapError .ofSealing)

/-- Opens a sealed packet. -/
def openPacket (packet : Packet) (key : Bytes) : RingAction Bytes :=
  openContent key packet.content

/-- Reads a keyring. The credential is asked when the container is found in order. -/
def read (source : Source) (credential : Credential) : RingAction Ring := do
  let data ← Action.ofExcept (source.contents.mapError .io)
  let container ← parseSupported data
  inspect [] container.packets
  let wrappedKey ← required .dataKey container.packets
  let sealedBundle ← required .bundle container.packets
  let salt := (content? .salt container.packets).getD []
  let accessKey ← ask credential salt
  let dataKey ← openContent accessKey wrappedKey
  if dataKey.length ≠ dataKeyLength then
    Action.fail (.dataKeyLength dataKey.length)
  let plain ← openContent dataKey sealedBundle
  let bundle ← Bundle.decode plain
  let extras := Bundle.unknownAmong container.packets
  Action.log
    (.ofRing .debug "read keyring"
      [("keys", toString bundle.view.length), ("active", toString bundle.view.activeId.toNat),
        ("unknown", toString (extras.length + bundle.extras.length))])
  return {
    header := container.header
    salt := salt
    wrappedKey := wrappedKey
    dataKey := ⟨dataKey⟩
    view := bundle.view
    maxId := bundle.view.keys.maxId
    extras := extras
    bundleExtras := bundle.extras }

/-- The bundle of a ring. -/
def bundle (ring : Ring) : Bundle :=
  ⟨ring.view, ring.bundleExtras⟩

/-- The ring's bundle, sealed under the data key. -/
def sealBundle (ring : Ring) : RingAction Bytes := do
  let plain ← Action.orFault (Part.encodeAll ring.bundle.parts)
  Action.mapCause .ofSealing (Sealing.sealFresh ring.dataKey.bytes plain [])

/-- The parts of a ring's container around its sealed bundle. -/
def parts (ring : Ring) (sealedBundle : Bytes) : List Part :=
  .header ring.header :: .packet ⟨.salt, ring.salt⟩ :: .packet ⟨.dataKey, ring.wrappedKey⟩ ::
    .packet ⟨.bundle, sealedBundle⟩ :: ring.extras.map .packet

/-- The bytes that are set aside for a ring's container around its sealed bundle. -/
def reserved (ring : Ring) (sealedBundle : Bytes) : Nat :=
  Header.size + Packet.headerSize * 3 + ring.salt.length + ring.wrappedKey.length +
    sealedBundle.length + (ring.extras.map Packet.encodedLength).foldr (· + ·) 0

/-- The bytes of a ring's container, with the bundle sealed anew. -/
def encode (ring : Ring) : RingAction Bytes := do
  let sealedBundle ← ring.sealBundle
  Action.orFault (Part.encodeAll (ring.parts sealedBundle))

/-- Writes a keyring. -/
def write (ring : Ring) (sink : Sink) : RingAction Delivery := do
  let data ← ring.encode
  match sink.take data with
  | (received, .ok ()) => do
    Action.log
      (.ofRing .debug "wrote keyring"
        [("bytes", toString data.length), ("keys", toString ring.length)])
    return ⟨received, .ok data.length⟩
  | (received, .error failure) => return ⟨received, .error failure⟩

end Ring

end Keyring
