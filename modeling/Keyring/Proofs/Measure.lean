import Keyring.Proofs.Faults
import Mathlib.Algebra.GroupWithZero.Nat

namespace Keyring

theorem Packet.length_joined (packets : List Packet) :
    (joined packets).length = (packets.map fun packet => 4 + packet.content.length).sum := by
  induction packets with
  | nil => rfl
  | cons packet rest ih =>
    rw [length_joined_cons, List.map_cons, List.sum_cons, ih, encodedLength, headerSize]

/-- The space that packets are counted with is the space that they take. -/
theorem Packet.foldr_encodedLength (packets : List Packet) :
    (packets.map encodedLength).foldr (· + ·) 0 = (joined packets).length := by
  rw [length_joined]
  rfl

theorem Entry.length_joined_packets (list : List Entry) :
    (Packet.joined (list.map Entry.packet)).length = (list.map fun entry => 8 + entry.key.length).sum := by
  induction list with
  | nil => rfl
  | cons entry rest ih =>
    rw [List.map_cons, Packet.joined_cons, List.length_append, length_bytes_packet, ih, List.map_cons, List.sum_cons]

/-- Parts that come first are the front of what is encoded. -/
theorem Part.encodeAll_prefix {front parts : List Part} {data : Bytes} (first : front <+: parts)
    (encoded : encodeAll parts = .ok data) : ∃ begun, encodeAll front = .ok begun ∧ begun <+: data := by
  obtain ⟨back, rfl⟩ := first
  rw [encodeAll, List.mapM_append] at encoded
  cases before : front.mapM encode with
  | error fault =>
    rw [before] at encoded
    cases encoded
  | ok chunks =>
    cases behind : back.mapM encode with
    | error fault =>
      rw [before, behind] at encoded
      cases encoded
    | ok others =>
      rw [before, behind] at encoded
      cases encoded
      refine ⟨joined chunks, by rw [encodeAll, before]; rfl, ?_⟩
      simp only [joined_eq_flatten, List.flatten_append]
      exact List.prefix_append _ _

/-- What is set aside for a bundle is what its packets take. -/
theorem Bundle.reserved_eq (bundle : Bundle) : bundle.reserved = (Packet.joined bundle.packets).length := by
  have record : (ActiveRecord.packet (some bundle.view.activeId)).bytes.length = 8 := rfl
  have counted : (bundle.view.keys.entries.map fun entry => Packet.headerSize + 4 + entry.key.length).foldr (· + ·) 0 =
      (Packet.joined (bundle.view.keys.entries.map Entry.packet)).length := by
    rw [Entry.length_joined_packets]
    rfl
  rw [reserved, counted, Packet.foldr_encodedLength, packets, Packet.joined_cons, Packet.joined_append]
  simp only [List.length_append, record, Packet.headerSize]
  omega

theorem Sealing.withinCounter_eq_false_iff {plain : Bytes} :
    withinCounter plain = false ↔ 0xffffffff * 64 ≤ plain.length := by
  rw [withinCounter, decide_eq_false_iff_not]
  omega

/-- A message beyond the block counter is refused when its nonce is drawn. -/
theorem Sealing.sealFresh_of_tooLong {key plain : Bytes} {world : World} (keyFits : key.length = keyLength)
    (beyond : withinCounter plain = false) (aad : Bytes) (enough : world.supply.Has nonceLength) :
    ∃ later, sealFresh key plain aad world = .error (.error .tooLong) later := by
  have refused : sealWith key (world.supply.segment world.supply.drawn nonceLength) plain aad = .error .tooLong := by
    simp [sealWith, keyFits, beyond]
  refine ⟨⟨world.supply.after nonceLength, world.trace.push (.drew .nonce world.supply.drawn nonceLength)⟩, ?_⟩
  rw [sealFresh, if_neg (not_not_intro keyFits)]
  refine (Action.bind_of_ok (Action.draw_of_has enough .nonce) _).trans ?_
  rw [refused]
  rfl

namespace Ring

/-- The size that the sealed bundle of a ring has: eight bytes and the key for every entry, four bytes and the
content for every packet that was carried along, and 48 for the seal and the record of the active key. -/
def bundleSize (ring : Ring) : Nat :=
  48 + (ring.view.keys.entries.map fun entry => 8 + entry.key.length).sum +
    (ring.bundleExtras.map fun packet => 4 + packet.content.length).sum

/-- The size that the container of a ring has. -/
def totalSize (ring : Ring) : Nat :=
  136 + ring.salt.length + (ring.view.keys.entries.map fun entry => 8 + entry.key.length).sum +
    (ring.bundleExtras.map fun packet => 4 + packet.content.length).sum +
    (ring.extras.map fun packet => 4 + packet.content.length).sum

theorem le_totalSize (ring : Ring) : 136 ≤ ring.totalSize := by
  unfold totalSize
  omega

/-- A ring fits if its salt and its sealed bundle each fit into a packet. -/
def Fits (ring : Ring) : Prop :=
  ring.salt.length ≤ max24 ∧ ring.bundleSize ≤ max24

/-- Every packet of the bundle fits, but all of them together are more than one nonce can seal, which is some
256 GiB. -/
structure BeyondCipher (ring : Ring) : Prop where
  packetsFit : ∀ packet ∈ ring.bundle.packets, packet.Fits
  large : 0xffffffff * 64 ≤ ring.bundle.reserved

section Size

variable {ring : Ring} {accessKey : Bytes}

theorem sealedSize_eq (ring : Ring) : ring.sealedSize = ring.bundleSize := by
  rw [sealedSize_of_parts, bundleSize, Entry.length_joined_packets, Packet.length_joined]

theorem bundleSize_eq (ring : Ring) : ring.bundleSize = Sealing.sealedLength ring.bundle.reserved := by
  rw [← sealedSize_eq, sealedSize, Bundle.reserved_eq]

/-- What is set aside for a container is what it takes. -/
theorem reserved_eq (ring : Ring) (sealedBundle : Bytes) :
    ring.reserved sealedBundle = (ring.container sealedBundle).bytes.length := by
  rw [reserved, Packet.foldr_encodedLength]
  simp only [Container.bytes, container, Packet.joined_cons, List.length_append, Header.length_bytes,
    Packet.length_bytes, Packet.encodedLength]
  omega

theorem WellFormed.reserved_eq_totalSize (formed : ring.WellFormed accessKey) {sealedBundle : Bytes}
    (size : sealedBundle.length = ring.bundleSize) : ring.reserved sealedBundle = ring.totalSize := by
  rw [reserved, formed.length_wrappedKey, size, Packet.foldr_encodedLength, Packet.length_joined, bundleSize, totalSize]
  simp only [Header.size, Packet.headerSize, Sealing.sealedLength, Sealing.nonceLength, Sealing.tagLength, dataKeyLength]
  omega

theorem BeyondCipher.not_fits (beyond : ring.BeyondCipher) : ¬ ring.Fits := by
  rintro ⟨-, small⟩
  have large := beyond.large
  rw [bundleSize_eq, Sealing.sealedLength, max24] at small
  omega

/-- If the sealed bundle fits into a packet, so does all that is in it. -/
theorem packets_fit_of_bundleSize (small : ring.bundleSize ≤ max24) :
    ∀ packet ∈ ring.bundle.packets, packet.Fits := by
  intro packet member
  have inside := Packet.encodedLength_le_joined member
  rw [← sealedSize_eq, sealedSize, Sealing.sealedLength] at small
  rw [Packet.encodedLength] at inside
  rw [Packet.Fits]
  omega

end Size

section Unfit

variable {ring : Ring} {accessKey : Bytes} {world : World} (formed : ring.WellFormed accessKey)
  (enough : world.supply.Has Sealing.nonceLength)
include formed enough

theorem WellFormed.encode_succeeds_iff_fits : (∃ data later, ring.encode world = .ok data later) ↔ ring.Fits := by
  rw [encode_succeeds_iff formed world, ← sealedSize, sealedSize_eq, Fits]
  exact ⟨fun given => given.2.2, fun fits => ⟨packets_fit_of_bundleSize fits.2, enough, fits⟩⟩

/-- A bundle beyond the cipher's limit is refused by the cipher, before there is a packet for it. -/
theorem WellFormed.encode_of_beyond (beyond : ring.BeyondCipher) :
    ∃ later, ring.encode world = .error (.error (.sealing .tooLong)) later := by
  have encoded : Part.encodeAll ring.bundle.parts = .ok (Packet.joined ring.bundle.packets) := by
    rw [Bundle.encodeAll_parts]
    exact Part.encodeAll_packets.mpr ⟨beyond.packetsFit, rfl⟩
  have large := beyond.large
  rw [Bundle.reserved_eq] at large
  obtain ⟨later, refused⟩ := Sealing.sealFresh_of_tooLong formed.dataKeyFits
    (Sealing.withinCounter_eq_false_iff.mpr large) [] enough
  have early : ring.sealBundle world = .error (.error (.sealing .tooLong)) later := by
    rw [sealBundle, encoded]
    simp only [Action.orFault, Action.mapCause, pure_bind, refused]
    rfl
  exact ⟨later, Action.bind_of_error early _⟩

/-- Of a bundle within the cipher's limit, writing fails only at a packet that is too big. -/
theorem WellFormed.encode_of_unfit (unfit : ¬ ring.Fits) (sealable : ¬ ring.BeyondCipher) :
    ∃ size later, max24 < size ∧ ring.encode world = .error (.fault (.packetTooBig size)) later := by
  cases encoded : Part.encodeAll ring.bundle.parts with
  | error fault =>
    have stopped := encoded
    rw [Bundle.encodeAll_parts] at stopped
    obtain ⟨packet, -, tooBig, rfl⟩ := Part.encodeAll_packets_eq_error stopped
    have early : ring.sealBundle world = .error (.fault (.packetTooBig packet.content.length)) world := by
      rw [sealBundle, encoded]
      rfl
    exact ⟨_, world, Nat.lt_of_not_le tooBig, Action.bind_of_error early _⟩
  | ok plain =>
    have whole := encoded
    rw [Bundle.encodeAll_parts] at whole
    obtain ⟨packetsFit, rfl⟩ := Part.encodeAll_packets.mp whole
    have within : Sealing.withinCounter (Packet.joined ring.bundle.packets) = true := by
      rw [← Bool.not_eq_false, Sealing.withinCounter_eq_false_iff, ← Bundle.reserved_eq]
      exact fun large => sealable ⟨packetsFit, large⟩
    obtain ⟨later, packed⟩ := (Sealing.sealFresh_eq_ok_iff world).mpr
      ⟨enough, Sealing.sealWith_envelope _ [] formed.dataKeyFits within⟩
    generalize Sealing.envelope _ _ _ _ = sealedBundle at packed
    have bundled : ring.sealBundle world = .ok sealedBundle later := by
      rw [sealBundle, encoded]
      exact Action.mapCause_eq_ok.mpr packed
    have rest := Action.bind_of_ok bundled fun sealedBundle => Action.orFault (Part.encodeAll (ring.parts sealedBundle))
    cases whole : Part.encodeAll (ring.parts sealedBundle) with
    | ok data =>
      rw [whole] at rest
      exact absurd (formed.encode_succeeds_iff_fits enough |>.mp ⟨data, later, rest⟩) unfit
    | error fault =>
      rw [whole] at rest
      rw [parts_eq] at whole
      obtain ⟨packet, -, tooBig, rfl⟩ := Part.encodeAll_container_eq_error whole
      exact ⟨_, later, Nat.lt_of_not_le tooBig, rest⟩

/-- The parts of a ring that fits, and the sizes that they have. -/
theorem WellFormed.encode_of_fits (fits : ring.Fits) :
    ∃ plain sealedBundle data,
      Part.encodeAll ring.bundle.parts = .ok plain ∧ plain.length = ring.bundle.reserved ∧
      (∃ between, ring.sealBundle world = .ok sealedBundle between) ∧
      Part.encodeAll (ring.parts sealedBundle) = .ok data ∧ data.length = ring.reserved sealedBundle ∧
      ring.reserved sealedBundle = ring.totalSize ∧ ∃ later, ring.encode world = .ok data later := by
  obtain ⟨data, later, encoded⟩ := (formed.encode_succeeds_iff_fits enough).mpr fits
  obtain ⟨sealedBundle, between, bundled, rest⟩ := Action.bind_eq_ok.mp encoded
  obtain ⟨plain, _, prepared, -⟩ := Action.bind_eq_ok.mp bundled
  obtain ⟨inner, -⟩ := Action.orFault_eq_ok.mp prepared
  obtain ⟨outer, -⟩ := Action.orFault_eq_ok.mp rest
  have plainSize : plain.length = ring.bundle.reserved := by
    have whole := inner
    rw [Bundle.encodeAll_parts] at whole
    rw [Bundle.reserved_eq, (Part.encodeAll_packets.mp whole).2]
  have bundleSize : sealedBundle.length = ring.bundleSize := by
    rw [length_sealedBundle bundled, sealedSize_eq]
  have dataSize : data.length = ring.reserved sealedBundle := by
    have whole := outer
    rw [parts_eq] at whole
    rw [reserved_eq, ← (Part.encodeAll_container.mp whole).2]
  exact ⟨plain, sealedBundle, data, inner, plainSize, ⟨between, bundled⟩, outer, dataSize,
    formed.reserved_eq_totalSize bundleSize, later, encoded⟩

end Unfit

/-- What a write does is settled by sizes. It succeeds exactly if the salt and the sealed bundle fit into their
packets, and otherwise it stops at a packet that is too big before any sink has been given a byte, unless it is the
cipher that the bundle is too long for, which then is the cause that is told. The bytes written are as many as were set
aside, at no point were there more of them, and a sink with less room is left with the front of them. -/
theorem write_measured {start ring : Ring} {changes : List Change} {accessKey : Bytes} {world : World}
    (origin : Origin start accessKey) (course : Course start changes ring)
    (enough : world.supply.Has Sealing.nonceLength) :
    ((∃ delivery later, ring.write .boundless world = .ok delivery later) ↔ ring.Fits) ∧
    (¬ ring.Fits → ¬ ring.BeyondCipher → ∃ size later, max24 < size ∧
      Fault.message (.packetTooBig size) = s!"keyring: packet too big ({size} > {max24})" ∧
      ∀ sink, ring.write sink world = .error (.fault (.packetTooBig size)) later) ∧
    (ring.BeyondCipher → ¬ ring.Fits ∧
      ∃ later, ∀ sink, ring.write sink world = .error (.error (.sealing .tooLong)) later) ∧
    (ring.Fits →
      ∃ plain sealedBundle data,
        Part.encodeAll ring.bundle.parts = .ok plain ∧
        (∃ between, ring.sealBundle world = .ok sealedBundle between) ∧
        Part.encodeAll (ring.parts sealedBundle) = .ok data ∧
        plain.length = ring.bundle.reserved ∧
        (∀ front begun, front <+: ring.bundle.parts → Part.encodeAll front = .ok begun →
          begun.length ≤ ring.bundle.reserved) ∧
        data.length = ring.totalSize ∧ ring.reserved sealedBundle = ring.totalSize ∧
        (∀ front begun, front <+: ring.parts sealedBundle → Part.encodeAll front = .ok begun →
          begun.length ≤ ring.reserved sealedBundle) ∧
        (∃ later, ring.write .boundless world = .ok ⟨data, .ok ring.totalSize⟩ later) ∧
        ∀ room refusal, ∃ later, ring.write ⟨some room, refusal⟩ world =
          .ok ⟨data.take room, if room < ring.totalSize then .error refusal else .ok ring.totalSize⟩ later) := by
  have formed := course.wellFormed origin.wellFormed
  refine ⟨?_, ?_, ?_, ?_⟩
  · rw [← formed.encode_succeeds_iff_fits enough]
    constructor
    · rintro ⟨delivery, later, written⟩
      obtain ⟨data, encoded, -⟩ := (write_eq_ok_iff world).mp ⟨later, written⟩
      exact ⟨data, encoded⟩
    · rintro ⟨data, encoded⟩
      exact ⟨_, (write_eq_ok_iff world).mpr ⟨data, encoded, rfl⟩⟩
  · intro unfit sealable
    obtain ⟨size, later, big, failed⟩ := formed.encode_of_unfit enough unfit sealable
    exact ⟨size, later, big, rfl, fun sink => Action.bind_of_error failed _⟩
  · intro beyond
    obtain ⟨later, failed⟩ := formed.encode_of_beyond enough beyond
    exact ⟨beyond.not_fits, later, fun sink => Action.bind_of_error failed _⟩
  · intro fits
    obtain ⟨plain, sealedBundle, data, inner, plainSize, bundled, outer, dataSize, total, encoded⟩ :=
      formed.encode_of_fits enough fits
    have whole : data.length = ring.totalSize := dataSize.trans total
    refine ⟨plain, sealedBundle, data, inner, bundled, outer, plainSize, ?_, whole, total, ?_, ?_, ?_⟩
    · intro front begun first started
      obtain ⟨_, again, before⟩ := Part.encodeAll_prefix first inner
      cases started.symm.trans again
      exact before.length_le.trans plainSize.le
    · intro front begun first started
      obtain ⟨_, again, before⟩ := Part.encodeAll_prefix first outer
      cases started.symm.trans again
      exact before.length_le.trans dataSize.le
    · refine (write_eq_ok_iff world).mpr ⟨data, encoded, ?_⟩
      rw [← whole]
      rfl
    · intro room refusal
      refine (write_eq_ok_iff world).mpr ⟨data, encoded, ?_⟩
      rw [← whole]
      by_cases short : room < data.length <;> simp only [Sink.take, short, if_true, if_false] <;> rfl

/-- A ring of two keys is written into 155 bytes, and a sink that takes a hundred of them is left with those. -/
theorem write_measured_sampleLater :
    sampleLater.totalSize = 155 ∧ ∃ (data : Bytes) (later : World), data.length = 155 ∧
      sampleLater.write ⟨some 100, .tookNothing⟩ (worldFrom []) = .ok ⟨data.take 100, .error .tookNothing⟩ later := by
  have enough : (worldFrom []).supply.Has Sealing.nonceLength := ⟨by decide, by simp [worldFrom]⟩
  have total : sampleLater.totalSize = 155 := by decide
  obtain ⟨-, -, -, written⟩ := write_measured sample_origin sample_course enough
  obtain ⟨_, _, data, -, -, -, -, -, whole, -, -, -, cut⟩ := written ⟨by decide, by decide⟩
  obtain ⟨later, stopped⟩ := cut 100 .tookNothing
  rw [total] at stopped whole
  exact ⟨total, data, later, whole, stopped⟩

section Vast

variable {start : Ring} {accessKey key : Bytes}

/-- The entries of one key that is added over and over. -/
def nextEntries (start : Ring) (key : Bytes) (count : Nat) : List Entry :=
  (List.range count).map fun i => ⟨start.maxId + UInt32.ofNat i + 1, key⟩

theorem nextEntries_succ (start : Ring) (key : Bytes) (count : Nat) :
    nextEntries start key (count + 1) =
      nextEntries start key count ++ [⟨start.maxId + UInt32.ofNat count + 1, key⟩] := by
  rw [nextEntries, List.range_succ, List.map_append]
  rfl

theorem sum_nextEntries (start : Ring) (key : Bytes) (count : Nat) :
    ((nextEntries start key count).map fun entry => 8 + entry.key.length).sum = count * (8 + key.length) := by
  rw [nextEntries, List.map_map]
  simp only [Function.comp_def, List.map_const', List.sum_replicate_nat, List.length_range]

/-- As long as there are ids left, a key can be added once more. -/
theorem Course.adds (formed : start.WellFormed accessKey) (nonempty : key ≠ []) {count : Nat}
    (room : start.maxId.toNat + count ≤ maxKeyId.toNat) :
    ∃ ring, Course start ((nextEntries start key count).map .added) ring ∧
      ring.maxId = start.maxId + UInt32.ofNat count ∧ ring.bundleExtras = start.bundleExtras ∧
      ring.view.keys.entries = start.view.keys.entries ++ nextEntries start key count := by
  induction count with
  | zero => exact ⟨start, .start, (UInt32.add_zero _).symm, rfl, (List.append_nil _).symm⟩
  | succ count ih =>
    obtain ⟨ring, course, largest, extras, entries⟩ := ih (by omega)
    have left : ring.maxId ≠ maxKeyId := by
      intro same
      have sum := congrArg UInt32.toNat (largest.symm.trans same)
      simp only [maxKeyId, UInt32.toNat_add, UInt32.toNat_ofNat', UInt32.toNat_ofNat] at sum room
      omega
    have above := (course.wellFormed formed).lt_next left
    have more := course.step (.added nonempty left)
    rw [largest] at more above
    rw [nextEntries_succ, List.map_append]
    refine ⟨_, more, ?_, extras, ?_⟩
    · rw [UInt32.ofNat_add, ← UInt32.add_assoc]
      rfl
    · rw [← List.append_assoc, ← entries]
      exact Snapshot.entries_insert_above above

/-- The longest key that fits into an entry. -/
def longKey : Bytes :=
  List.replicate 16777211 0

theorem length_longKey : longKey.length = 16777211 :=
  List.length_replicate

/-- The sample with a salt. -/
def salted (salt : Bytes) : Ring :=
  { sample with salt := salt }

theorem salted_origin (salt : Bytes) : Origin (salted salt) (List.replicate 32 1) :=
  sample_origin_of_salt (some salt)

/-- A salt that is too long for a packet keeps a ring from being written, whatever the sink. -/
theorem write_salted {salt : Bytes} (long : max24 < salt.length) {world : World}
    (enough : world.supply.Has Sealing.nonceLength) :
    ∃ size later, ∀ sink, (salted salt).write sink world = .error (.fault (.packetTooBig size)) later := by
  have unfit : ¬ (salted salt).Fits := fun fits => Nat.not_le.mpr long fits.1
  have sealable : ¬ (salted salt).BeyondCipher := by
    intro beyond
    have large := beyond.large
    have same : (salted salt).bundle = sample.bundle := rfl
    rw [same] at large
    exact absurd large (by decide)
  obtain ⟨size, later, -, failed⟩ := (salted_origin salt).wellFormed.encode_of_unfit enough unfit sealable
  exact ⟨size, later, fun sink => Action.bind_of_error failed _⟩

/-- Of the longest key that there can be, 16385 are more than the cipher takes, though each of them fits. -/
theorem exists_beyondCipher :
    ∃ ring, Course sample ((nextEntries sample longKey 16385).map .added) ring ∧ ring.BeyondCipher := by
  have nonempty : longKey ≠ [] := by
    rw [← List.length_pos_iff, length_longKey]
    decide
  obtain ⟨ring, course, -, extras, entries⟩ :=
    Course.adds sample_origin.wellFormed nonempty (by decide : sample.maxId.toNat + 16385 ≤ maxKeyId.toNat)
  refine ⟨ring, course, ?_, ?_⟩
  · have short : ∀ entry ∈ ring.view.keys.entries, entry.key.length ≤ 16777211 := by
      rw [entries]
      intro entry member
      rcases List.mem_append.mp member with first | next
      · rw [List.mem_singleton.mp first]
        decide
      · obtain ⟨_, -, rfl⟩ := List.mem_map.mp next
        exact length_longKey.le
    rw [Bundle.packets, bundle, extras]
    intro packet member
    rcases List.mem_cons.mp member with rfl | inside
    · exact (by decide : 4 ≤ max24)
    · obtain ⟨entry, stored, rfl⟩ := List.mem_map.mp ((List.append_nil _) ▸ inside)
      have size : entry.packet.content.length = 4 + entry.key.length := by
        rw [Entry.packet, Entry.content, List.length_append, length_be32]
      have limit := short entry stored
      rw [Packet.Fits, size, max24]
      omega
  · have size := ring.bundleSize_eq
    rw [bundleSize, entries, extras, List.map_append, List.sum_append, sum_nextEntries, length_longKey,
      Sealing.sealedLength, Sealing.nonceLength, Sealing.tagLength] at size
    omega

/-- A ring can be so large that it is the cipher that refuses it, and nothing panics. A ring that does not fit panics
before a sink with too little room for it could fail. -/
theorem write_measured_vast :
    (Origin sample (List.replicate 32 1) ∧
      ∃ ring, Course sample ((nextEntries sample longKey 16385).map .added) ring ∧ ¬ ring.Fits ∧
        ∃ later, ∀ sink, ring.write sink (worldFrom []) = .error (.error (.sealing .tooLong)) later) ∧
    let ring := salted (List.replicate 16777216 0)
    Origin ring (List.replicate 32 1) ∧ 4 < ring.totalSize ∧
      ∃ size later, ring.write ⟨some 4, .tookNothing⟩ (worldFrom []) = .error (.fault (.packetTooBig size)) later := by
  have enough : (worldFrom []).supply.Has Sealing.nonceLength := ⟨by decide, by simp [worldFrom]⟩
  constructor
  · obtain ⟨ring, course, beyond⟩ := exists_beyondCipher
    obtain ⟨later, failed⟩ := (course.wellFormed sample_origin.wellFormed).encode_of_beyond enough beyond
    exact ⟨sample_origin, ring, course, beyond.not_fits, later, fun sink => Action.bind_of_error failed _⟩
  · have long : max24 < (List.replicate 16777216 (0 : UInt8)).length := by
      rw [List.length_replicate]
      decide
    obtain ⟨size, later, failed⟩ := write_salted long enough
    exact ⟨salted_origin _, Nat.lt_of_lt_of_le (by decide) (le_totalSize _), size, later, failed _⟩

end Vast

end Ring

end Keyring
