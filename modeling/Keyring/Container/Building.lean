import Keyring.Container.Assembly

namespace Keyring

/-- Bytes under construction, to which something is added. What is written before a fault stays. -/
abbrev Building := EStateM Fault Bytes Unit

namespace Building

/-- Adds bytes at the end. -/
def write (bytes : Bytes) : Building :=
  modify (· ++ bytes)

/-- Stops before a content whose length three bytes cannot spell. -/
def checkLength (length : Nat) : Building :=
  if length ≤ max24 then pure () else throw (.packetTooBig length)

def header (opening : Header) : Building :=
  write opening.bytes

def packet (type : PacketType) (content : Bytes) : Building := do
  checkLength content.length
  write [type.code]
  write (be24 content.length)
  write content

/-- The record of the active key. It is empty if no id is given. -/
def active : Option KeyId → Building
  | some id => packet .active (be32 id)
  | none => packet .active []

/-- The packet of a key. Its content is not put together before it is written. -/
def entry (id : KeyId) (key : Bytes) : Building := do
  let length := 4 + key.length
  checkLength length
  write [PacketType.entry.code]
  write (be24 length)
  write (be32 id)
  write key

def put : Part → Building
  | .header opening => header opening
  | .packet unit => packet unit.type unit.content
  | .active id => active id
  | .entry record => entry record.id record.key

/-- Puts parts at the end one after the other, and goes on behind a fault. Gives the fault of each part that has
one, and the bytes in the end. -/
def run : List Part → Bytes → List (Option Fault) × Bytes
  | [], built => ([], built)
  | part :: rest, built =>
    match put part built with
    | .ok _ later => ((none :: (run rest later).1), (run rest later).2)
    | .error fault later => ((some fault :: (run rest later).1), (run rest later).2)

end Building

end Keyring
