import Keyring.Container.Assembly
import Keyring.Ring.Basic

namespace Keyring

/-- What a bundle holds: keys with one of them active, and the unknown packets. -/
structure Bundle where
  view : Snapshot
  extras : List Packet

namespace Bundle

/-- Goes through the packets of a bundle and stops at the first that may not stand there. -/
def inspect (activeSeen : Bool) : List Packet → RingAction Unit
  | [] => pure ()
  | packet :: rest =>
    match packet.type.role with
    | .active => do
      if activeSeen then
        Action.fail (.duplicate packet.type)
      let _ ← Action.ofExcept ((ActiveRecord.parse packet.content).mapError .malformed)
      inspect true rest
    | .entry => do
      let _ ← Action.ofExcept ((Entry.parse packet.content).mapError .malformed)
      inspect activeSeen rest
    | .unknown => do
      Action.log
        (.ofRing .warn "keeping unknown bundle packet" [("packet_type", packet.type.label)])
      inspect activeSeen rest
    | .dataKey | .salt | .bundle => Action.fail (.unexpected packet.type)

/-- The entries among some packets. -/
def entries (packets : List Packet) : List Entry :=
  packets.filterMap fun packet =>
    if packet.type.role = .entry then (Entry.parse packet.content).toOption else none

/-- The active id on record among some packets. -/
def recordedActive (packets : List Packet) : Option KeyId :=
  packets.findSome? fun packet =>
    if packet.type.role = .active then
      match ActiveRecord.parse packet.content with
      | .ok id => id
      | .error _ => none
    else none

/-- The packets whose type is not defined. -/
def unknownAmong (packets : List Packet) : List Packet :=
  packets.filter fun packet => packet.type.role = .unknown

/-- The snapshot of a set of keys with the recorded key active, or the lowest one if there is no
record. -/
def viewOf (keys : KeySet) (recorded : Option KeyId) : RingAction Snapshot :=
  match stored : keys.entries with
  | [] => Action.fail .noKeys
  | lowest :: _ =>
    match recorded with
    | some id =>
      match found : keys.find? id with
      | some position => pure ⟨keys, position, KeySet.lt_length_of_find? found⟩
      | none => Action.fail (.activeUnknown id)
    | none => do
      Action.log
        (.ofRing .warn "no active key recorded, using lowest id" [("id", toString lowest.id.toNat)])
      pure ⟨keys, 0, by simp [KeySet.length, stored]⟩

/-- The bundle whose plain text is given. -/
def decode (plain : Bytes) : RingAction Bundle := do
  let packets ←
    Action.ofExcept ((Packet.parseAll 0 plain).mapError fun stopped => .malformed stopped.damage)
  inspect false packets
  let keys ← Action.ofExcept ((KeySet.ofEntries (entries packets)).mapError .duplicateId)
  let view ← viewOf keys (recordedActive packets)
  return ⟨view, unknownAmong packets⟩

/-- The parts of a bundle: the active id, the keys in order, the unknown packets. -/
def parts (bundle : Bundle) : List Part :=
  .active (some bundle.view.activeId) ::
    (bundle.view.keys.entries.map .entry ++ bundle.extras.map .packet)

/-- The bytes that are set aside for the plain text of a bundle. -/
def reserved (bundle : Bundle) : Nat :=
  Packet.headerSize + 4 +
    (bundle.view.keys.entries.map fun entry => Packet.headerSize + 4 + entry.key.length).foldr (· + ·) 0 +
    (bundle.extras.map Packet.encodedLength).foldr (· + ·) 0

end Bundle

end Keyring
