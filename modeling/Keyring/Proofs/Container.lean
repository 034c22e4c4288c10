import Keyring.Container.Assembly
import Keyring.Proofs.Action

namespace Keyring

theorem Packet.joined_cons (packet : Packet) (packets : List Packet) :
    joined (packet :: packets) = packet.bytes ++ joined packets := by
  simp [joined]

@[simp]
theorem Packet.joined_nil : joined [] = [] := rfl

theorem Packet.joined_append (front back : List Packet) : joined (front ++ back) = joined front ++ joined back :=
  List.flatMap_append

theorem Packet.length_joined_cons (packet : Packet) (packets : List Packet) :
    (joined (packet :: packets)).length = packet.encodedLength + (joined packets).length := by
  rw [joined_cons, List.length_append, length_bytes]

/-- A reading without damage has found every byte in a packet that fits. -/
theorem Reading.joined_packets {offset : Nat} {data : Bytes} (whole : (of offset data).damage = none) :
    data = Packet.joined (of offset data).packets ∧ ∀ packet ∈ (of offset data).packets, packet.Fits := by
  induction size : data.length using Nat.strongRecOn generalizing offset data with
  | _ length ih =>
    cases front : Front.of data with
    | packet packet rest =>
      obtain ⟨split, fits⟩ := Front.eq_bytes_append front
      have shorter := Front.length_rest_lt front
      subst split
      rw [of_bytes_append fits] at whole ⊢
      obtain ⟨rejoined, allFit⟩ := ih rest.length (by omega) whole rfl
      refine ⟨?_, ?_⟩
      · rw [Packet.joined_cons, ← rejoined]
      · simp only [List.mem_cons, forall_eq_or_imp]
        exact ⟨fits, allFit⟩
    | shortHeader =>
      by_cases empty : data = []
      · subst empty
        simp [Packet.joined]
      · rw [of, collect, if_neg (by simpa using empty)] at whole
        split at whole <;> simp_all
    | shortContent expected actual =>
      have nonempty : data ≠ [] := by
        rintro rfl
        cases front
      rw [of, collect, if_neg (by simpa using nonempty)] at whole
      split at whole <;> simp_all

theorem Reading.of_joined {packets : List Packet} (fits : ∀ packet ∈ packets, packet.Fits) (offset : Nat) :
    of offset (Packet.joined packets) = ⟨packets, none⟩ := by
  induction packets generalizing offset with
  | nil => exact of_nil offset
  | cons packet rest ih =>
    have others := ih (fun other member => fits other (List.mem_cons_of_mem _ member))
    rw [Packet.joined_cons, of_bytes_append (fits packet List.mem_cons_self), others]

/-- Packets are read off their bytes, and off nothing else. -/
theorem Packet.parseAll_eq_ok_iff {offset : Nat} {data : Bytes} {packets : List Packet} :
    parseAll offset data = .ok packets ↔ data = joined packets ∧ ∀ packet ∈ packets, packet.Fits := by
  constructor
  · intro parsed
    unfold parseAll Reading.complete at parsed
    split at parsed
    next whole =>
      cases parsed
      exact Reading.joined_packets whole
    · cases parsed
  · rintro ⟨rfl, fits⟩
    simp [parseAll, Reading.complete, Reading.of_joined fits]

/-- A container is read off its bytes, and off nothing else. -/
theorem Container.parse_eq_ok_iff {data : Bytes} {container : Container} :
    parse data = .ok container ↔ data = container.bytes ∧ ∀ packet ∈ container.packets, packet.Fits := by
  constructor
  · intro parsed
    unfold parse at parsed
    split at parsed
    · cases parsed
    next header opening =>
      obtain ⟨rest, rfl⟩ := Header.parse_eq_ok_iff.mp opening
      have after : (header.bytes ++ rest).drop Header.size = rest := rfl
      rw [after] at parsed
      unfold Reading.complete at parsed
      split at parsed
      next whole =>
        cases parsed
        obtain ⟨rejoined, fits⟩ := Reading.joined_packets whole
        exact ⟨congrArg (header.bytes ++ ·) rejoined, fits⟩
      · cases parsed
  · rintro ⟨rfl, fits⟩
    have after : container.bytes.drop Header.size = Packet.joined container.packets := rfl
    unfold parse
    rw [after, Reading.of_joined fits, bytes, Header.parse_bytes_append]
    rfl

namespace Part

/-- What parts are encoded to depends on nothing but what each of them is encoded to. -/
theorem encodeAll_congr {parts others : List Part} (same : parts.map encode = others.map encode) :
    encodeAll parts = encodeAll others := by
  have through : ∀ list : List Part, list.mapM encode = (list.map encode).mapM id := by
    intro list
    rw [List.mapM_map]
    rfl
  rw [encodeAll, encodeAll, through, through, same]

theorem encode_packet {unit : Packet} {data : Bytes} :
    encode (.packet unit) = .ok data ↔ unit.Fits ∧ unit.bytes = data := by
  unfold encode Packet.encode
  by_cases fits : unit.Fits <;> simp [fits]

theorem mapM_encode_packets {packets : List Packet} {chunks : List Bytes} :
    (packets.map packet).mapM encode = .ok chunks ↔
      (∀ packet ∈ packets, packet.Fits) ∧ packets.map Packet.bytes = chunks := by
  induction packets generalizing chunks with
  | nil => simp [Outcome.pure_eq_ok]
  | cons first rest ih =>
    simp only [List.map_cons, List.mapM_cons, Outcome.bind_eq_ok, Outcome.pure_eq_ok, encode_packet, ih,
      List.mem_cons, forall_eq_or_imp]
    constructor
    · intro finished
      obtain ⟨_, ⟨fits, rfl⟩, _, ⟨others, rfl⟩, rfl⟩ := finished
      exact ⟨⟨fits, others⟩, rfl⟩
    · rintro ⟨⟨fits, others⟩, rfl⟩
      exact ⟨_, ⟨fits, rfl⟩, _, ⟨others, rfl⟩, rfl⟩

theorem encodeAll_packets {packets : List Packet} {data : Bytes} :
    encodeAll (packets.map packet) = .ok data ↔
      (∀ packet ∈ packets, packet.Fits) ∧ Packet.joined packets = data := by
  simp only [encodeAll, Outcome.map_eq_ok, mapM_encode_packets, Packet.joined, List.flatMap]
  constructor
  · rintro ⟨_, ⟨fits, rfl⟩, rfl⟩
    exact ⟨fits, (joined_eq_flatten _).symm⟩
  · rintro ⟨fits, rfl⟩
    exact ⟨_, ⟨fits, rfl⟩, joined_eq_flatten _⟩

theorem encodeAll_container {container : Container} {data : Bytes} :
    encodeAll (.header container.header :: container.packets.map packet) = .ok data ↔
      (∀ packet ∈ container.packets, packet.Fits) ∧ container.bytes = data := by
  simp only [encodeAll, Outcome.map_eq_ok, List.mapM_cons, Outcome.bind_eq_ok, Outcome.pure_eq_ok,
    mapM_encode_packets, Container.bytes, Packet.joined, List.flatMap]
  constructor
  · intro finished
    obtain ⟨_, ⟨_, opening, _, ⟨fits, rfl⟩, rfl⟩, rfl⟩ := finished
    cases opening
    rw [joined_eq_flatten, List.flatten_cons]
    exact ⟨fits, rfl⟩
  · rintro ⟨fits, rfl⟩
    refine ⟨_, ⟨_, rfl, _, ⟨fits, rfl⟩, rfl⟩, ?_⟩
    rw [joined_eq_flatten, List.flatten_cons]

end Part

/-- Parsing accepts the container grammar and nothing else: the magic byte, the version and two reserved bytes;
then for each packet the code of its type, three bytes that spell the length of its content, and the content. What
is built of packets parses to them, what is parsed builds to the bytes that it came from, and no other bytes parse
to the same. -/
theorem Container.parse_grammar :
    (∀ (data : Bytes) (header : Header) (packets : List Packet),
      parse data = .ok ⟨header, packets⟩ ↔
        data = [0xec, header.version, header.reserved.1, header.reserved.2] ++
            packets.flatMap (fun packet =>
              [packet.type.code, (packet.content.length / 65536).toUInt8, (packet.content.length / 256).toUInt8,
                packet.content.length.toUInt8] ++ packet.content) ∧
          ∀ packet ∈ packets, packet.content.length ≤ 16777215) ∧
      (∀ (data : Bytes) (header : Header) (packets : List Packet),
        Part.encodeAll (.header header :: packets.map .packet) = .ok data ↔ parse data = .ok ⟨header, packets⟩) ∧
      (∀ (data other : Bytes) (container : Container),
        parse data = .ok container → parse other = .ok container → data = other) := by
  have grammar : ∀ (data : Bytes) (header : Header) (packets : List Packet),
      parse data = .ok ⟨header, packets⟩ ↔
        data = bytes ⟨header, packets⟩ ∧ ∀ packet ∈ packets, packet.Fits :=
    fun data header packets => parse_eq_ok_iff
  refine ⟨grammar, ?_, ?_⟩
  · intro data header packets
    have built := @Part.encodeAll_container ⟨header, packets⟩ data
    rw [grammar, built]
    constructor
    · rintro ⟨fits, same⟩
      exact ⟨same.symm, fits⟩
    · rintro ⟨same, fits⟩
      exact ⟨fits, same.symm⟩
  · intro data other container parsed parsedOther
    have whole := (parse_eq_ok_iff.mp parsed).1
    have wholeOther := (parse_eq_ok_iff.mp parsedOther).1
    rw [whole, wholeOther]

end Keyring
