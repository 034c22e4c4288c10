import Keyring.Container.Malformed
import Keyring.Container.PacketType
import Keyring.Fault
import Keyring.Text.Escaped

namespace Keyring

/-- A type and a content. -/
structure Packet where
  type : PacketType
  content : Bytes
  deriving DecidableEq

namespace Packet

/-- The number of bytes in front of a content. -/
def headerSize : Nat := 4

def encodedLength (packet : Packet) : Nat :=
  headerSize + packet.content.length

/-- The code of the type, the length of the content in three bytes, the content. -/
def bytes (packet : Packet) : Bytes :=
  packet.type.code :: be24 packet.content.length ++ packet.content

/-- A content fits if three bytes can spell its length. -/
def Fits (packet : Packet) : Prop :=
  packet.content.length ≤ max24

instance (packet : Packet) : Decidable packet.Fits :=
  inferInstanceAs (Decidable (_ ≤ _))

/-- The bytes of a packet that fits. -/
def encode (packet : Packet) : Except Fault Bytes :=
  if packet.Fits then .ok packet.bytes else .error (.packetTooBig packet.content.length)

/-- The type and the first 16 bytes of the content. -/
def summary (packet : Packet) : String :=
  s!"Packet(type={packet.type.label}, data=\"" ++
    String.ofList (Escaped.ofBytes (packet.content.take 16)) ++ "\")"

theorem length_bytes (packet : Packet) : packet.bytes.length = packet.encodedLength := by
  simp only [bytes, encodedLength, headerSize, List.cons_append, List.length_cons,
    List.length_append, length_be24]
  omega

end Packet

/-- What a byte string starts with. -/
inductive Front where
  /-- A whole packet, and the bytes after it. -/
  | packet (first : Packet) (rest : Bytes)
  /-- Too few bytes for a packet header. -/
  | shortHeader
  /-- A packet header, and fewer bytes after it than it announces. -/
  | shortContent (expected actual : Nat)

def Front.of : Bytes → Front
  | code :: high :: middle :: low :: rest =>
    let size := ofBe24 high middle low
    if !(rest.drop size).isEmpty then .packet ⟨⟨code⟩, rest.take size⟩ (rest.drop size)
    else if rest.length = size then .packet ⟨⟨code⟩, rest⟩ []
    else .shortContent size rest.length
  | _ => .shortHeader

/-- A packet at the front is there with its exact bytes. -/
theorem Front.eq_bytes_append {data rest : Bytes} {packet : Packet}
    (front : Front.of data = .packet packet rest) :
    data = packet.bytes ++ rest ∧ packet.Fits := by
  unfold Front.of at front
  split at front
  · next code high middle low tail =>
    have bound := ofBe24_lt high middle low
    dsimp only at front
    split at front
    · next longer =>
      have size : (tail.take (ofBe24 high middle low)).length = ofBe24 high middle low := by
        simp only [Bool.not_eq_true', List.isEmpty_eq_false_iff, ne_eq, List.drop_eq_nil_iff,
          Nat.not_le] at longer
        simp only [List.length_take]
        omega
      cases front
      refine ⟨?_, ?_⟩
      · simp only [Packet.bytes, size, be24_ofBe24]
        simp [List.take_append_drop]
      · simp only [Packet.Fits, size, max24]
        omega
    · split at front
      · next size =>
        cases front
        refine ⟨?_, ?_⟩
        · simp only [Packet.bytes, size, be24_ofBe24]
          simp
        · simp only [Packet.Fits, size, max24]
          omega
      · cases front
  · cases front

theorem Front.of_bytes_append {packet : Packet} (fits : packet.Fits) (rest : Bytes) :
    Front.of (packet.bytes ++ rest) = .packet packet rest := by
  unfold Packet.Fits max24 at fits
  have size := ofBe24_be24 (by omega : packet.content.length < 16777216)
  simp only [Packet.bytes, be24, List.cons_append, List.nil_append, Front.of, size]
  cases rest with
  | nil => simp
  | cons first others => simp

theorem Front.length_rest_lt {data rest : Bytes} {packet : Packet}
    (front : Front.of data = .packet packet rest) : rest.length < data.length := by
  have whole := (Front.eq_bytes_append front).1
  simp only [whole, List.length_append, Packet.length_bytes, Packet.encodedLength,
    Packet.headerSize]
  omega

end Keyring
