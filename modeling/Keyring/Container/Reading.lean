import Keyring.Container.Packet

namespace Keyring

/-- The complete packets at the front of a byte string, and what is wrong with the bytes that
follow them, if any do. -/
structure Reading where
  packets : List Packet
  damage : Option Malformed
  deriving DecidableEq

namespace Reading

/-- Reads on from `offset`, where `done` holds the packets before it, last one first. -/
def collect (done : List Packet) (offset : Nat) (data : Bytes) : Reading :=
  if data.isEmpty then ⟨done.reverse, none⟩
  else
    match _front : Front.of data with
    | .packet packet rest => collect (packet :: done) (offset + packet.encodedLength) rest
    | .shortHeader => ⟨done.reverse, some (.shortPacketHeader offset)⟩
    | .shortContent expected actual =>
      ⟨done.reverse, some (.shortPacket (offset + Packet.headerSize) expected actual)⟩
termination_by data.length
decreasing_by exact Front.length_rest_lt _front

/-- The reading of a byte string that stands at `offset`. -/
def of (offset : Nat) (data : Bytes) : Reading :=
  collect [] offset data

theorem collect_eq (done : List Packet) (offset : Nat) (data : Bytes) :
    collect done offset data =
      ⟨done.reverse ++ (of offset data).packets, (of offset data).damage⟩ := by
  suffices general : ∀ before : List Packet,
      collect (before ++ done) offset data =
        ⟨done.reverse ++ (collect before offset data).packets,
          (collect before offset data).damage⟩ by
    simpa [of] using general []
  intro before
  fun_induction collect before offset data with
  | case1 before offset data isEmpty =>
    rw [collect]
    simp [isEmpty]
  | case2 before offset data notEmpty packet rest front ih =>
    rw [collect]
    simp only [notEmpty, if_false, Bool.false_eq_true]
    split <;> simp_all
  | case3 before offset data notEmpty front =>
    rw [collect]
    simp only [notEmpty, if_false, Bool.false_eq_true]
    split <;> simp_all
  | case4 before offset data notEmpty expected actual front =>
    rw [collect]
    simp only [notEmpty, if_false, Bool.false_eq_true]
    split <;> simp_all

@[simp]
theorem of_nil (offset : Nat) : of offset [] = ⟨[], none⟩ := by
  simp [of, collect]

/-- A packet at the front is the first one read. -/
theorem of_bytes_append {packet : Packet} (fits : packet.Fits) (offset : Nat) (rest : Bytes) :
    of offset (packet.bytes ++ rest) =
      ⟨packet :: (of (offset + packet.encodedLength) rest).packets,
        (of (offset + packet.encodedLength) rest).damage⟩ := by
  have front := Front.of_bytes_append fits rest
  rw [of, collect]
  have notEmpty : (packet.bytes ++ rest).isEmpty = false := by simp [Packet.bytes]
  rw [notEmpty]
  simp only [Bool.false_eq_true, if_false]
  split
  · next found others found_front =>
    rw [front] at found_front
    cases found_front
    rw [collect_eq]
    simp
  · simp_all
  · simp_all

end Reading

end Keyring
