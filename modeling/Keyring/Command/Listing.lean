import Keyring.Container.Basic
import Keyring.Container.Record
import Keyring.Command.Error
import Keyring.Ring.File
import Keyring.Text.ByteRows
import Keyring.Text.KeyText

namespace Keyring

/-- The lines that a command answers with. -/
structure Listing where
  text : String
  /-- Why nothing more follows, if it does not end as it should. -/
  stop : Option CommandError

namespace Listing

/-- A listing that ends as it should. -/
def complete (text : String) : Listing :=
  ⟨text, none⟩

/-- What the first listing says, and then the second if the first did not stop. -/
def andThen (first second : Listing) : Listing :=
  match first.stop with
  | none => ⟨first.text ++ second.text, second.stop⟩
  | some _ => first

/-- The line of one key. -/
def keyLine (showKeys : Bool) (active : KeyId) (entry : Entry) : String :=
  let shown := if showKeys then KeyText.ofBytes entry.key else s!"{entry.key.length} bytes"
  let mark := if entry.id = active then " [active]" else ""
  s!"{entry.id.toNat}: {shown}{mark}\n"

/-- The number of keys, and a line for each. -/
def ofView (showKeys : Bool) (view : Snapshot) : String :=
  s!"# {view.length} total\n" ++
    String.join (view.keys.entries.map (keyLine showKeys view.activeId))

/-- A byte string in rows. -/
def rowsOf (indent : String) (data : Bytes) : String :=
  String.ofList (ByteRows.ofBytes indent.toList data)

/-- The lines under the title of a packet of a bundle. -/
def innerBody (packet : Packet) : String :=
  match packet.type.role with
  | .active =>
    match ActiveRecord.parse packet.content with
    | .ok (some id) => s!"   active key id: {id.toNat}\n"
    | .ok none => "   active key id: none\n"
    | .error damage => s!"   <invalid active key> {damage.message}\n"
  | .entry =>
    match Entry.parse packet.content with
    | .ok entry => s!"   ID: {entry.id.toNat}, Key: {KeyText.ofBytes entry.key}\n"
    | .error damage => s!"   <invalid key info> {damage.message}\n"
  | _ => rowsOf "     " packet.content

/-- A packet of the bundle `index`. An empty line goes before every one but the first. -/
def inner (index number : Nat) (packet : Packet) : String :=
  let gap := if number = 1 then "" else "\n"
  let size := packet.content.length
  s!"{gap} + inner packet {index}.{number}: {packet.type.label} ({size} bytes)\n" ++
    innerBody packet

/-- The packets of the bundle `index`, whose plain text is given. -/
def ofBundle (index : Nat) (plain : Bytes) : Listing :=
  match Packet.parseAll 0 plain with
  | .error stopped => ⟨"", some (.malformed stopped.damage)⟩
  | .ok packets =>
    complete (String.join (packets.mapIdx fun i packet => inner index (i + 1) packet))

/-- The lines under the title of a packet of a container. A bundle is opened if the data key is
given. -/
def body (dataKey : Option Bytes) (index : Nat) (packet : Packet) : Listing :=
  match dataKey, packet.type.role with
  | some key, .bundle =>
    match Sealing.openWith key packet.content [] with
    | .ok plain => ofBundle index plain
    | .error cause => ⟨"", some (.packet index (.ofSealing cause))⟩
  | _, _ => complete (rowsOf "" packet.content)

/-- A packet of a container. An empty line goes before every one but the first. -/
def packet (dataKey : Option Bytes) (index : Nat) (packet : Packet) : Listing :=
  let gap := if index = 1 then "" else "\n"
  let size := packet.content.length
  (complete s!"{gap}-- Packet {index}: {packet.type.label} ({size} bytes)\n").andThen
    (body dataKey index packet)

/-- The line of a container's header. -/
def title (container : Container) : String :=
  let header := container.header
  let version := String.ofList (Hex.ofByte header.version)
  let reserved := String.ofList (Hex.ofByte header.reserved.1 ++ Hex.ofByte header.reserved.2)
  s!"Keyring version {version}, reserved {reserved}, {container.packets.length} packets\n"

/-- A container, header first. -/
def ofContainer (dataKey : Option Bytes) (container : Container) : Listing :=
  (container.packets.mapIdx fun i => packet dataKey (i + 1)).foldl andThen
    (complete (title container))

end Listing

end Keyring
