import Keyring.Container.Reading

namespace Keyring

/-- A place in a byte string from which packets are read one by one. It stops for good at the end
of the bytes and at the first damage. -/
structure Cursor where
  rest : Bytes
  /-- The number of bytes that lie behind. -/
  position : Nat
  /-- The offset of the byte string in what encloses it. -/
  base : Nat
  failed : Bool

namespace Cursor

/-- The offsets that 64 bits can hold. -/
def offsetLimit : Nat := 0x10000000000000000

def start (data : Bytes) (base : Nat) : Cursor :=
  ⟨data, 0, base, false⟩

/-- An offset, if 64 bits can hold it. -/
def checkOffset (offset : Nat) : Except Fault Nat :=
  if offset < offsetLimit then .ok offset else .error .offsetOverflow

/-- The next packet, or the damage found in its place; `none` when the reading is over. The offset
of the content is worked out whenever there is a packet header. -/
def next (cursor : Cursor) : Except Fault (Option (Except Malformed Packet) × Cursor) := do
  if cursor.failed || cursor.rest.isEmpty then
    return (none, cursor)
  let offset ← checkOffset (cursor.base + cursor.position)
  match Front.of cursor.rest with
  | .shortHeader => return (some (.error (.shortPacketHeader offset)), { cursor with failed := true })
  | .shortContent expected actual =>
    let contentOffset ← checkOffset (offset + Packet.headerSize)
    return (some (.error (.shortPacket contentOffset expected actual)),
      { cursor with failed := true })
  | .packet packet rest =>
    let _ ← checkOffset (offset + Packet.headerSize)
    return (some (.ok packet),
      { cursor with rest := rest, position := cursor.position + packet.encodedLength })

/-- A packet that is read leaves fewer bytes. -/
theorem length_rest_lt {cursor later : Cursor} {packet : Packet}
    (read : cursor.next = .ok (some (.ok packet), later)) :
    later.rest.length < cursor.rest.length := by
  unfold next checkOffset at read
  simp only [bind, Except.bind, pure, Except.pure] at read
  split at read
  · cases read
  · split at read
    · cases read
    · split at read
      · cases read
      · split at read <;> cases read
      · next found rest front =>
        split at read <;> cases read
        exact Front.length_rest_lt front

/-- Reads to the end, where `done` holds the packets so far, last one first. -/
def collect (done : List Packet) (cursor : Cursor) : Except Fault Reading :=
  match _read : cursor.next with
  | .error fault => .error fault
  | .ok (none, _) => .ok ⟨done.reverse, none⟩
  | .ok (some (.error damage), _) => .ok ⟨done.reverse, some damage⟩
  | .ok (some (.ok packet), later) => collect (packet :: done) later
termination_by cursor.rest.length
decreasing_by exact length_rest_lt _read

/-- All that is left to read. -/
def drain (cursor : Cursor) : Except Fault Reading :=
  collect [] cursor

end Cursor

end Keyring
