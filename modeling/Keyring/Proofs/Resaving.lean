import Keyring.Proofs.CarryThrough
import Keyring.Proofs.Rekeying

namespace Keyring

theorem Packet.encodedLength_le_joined {packet : Packet} {packets : List Packet} (member : packet ∈ packets) :
    packet.encodedLength ≤ (joined packets).length := by
  obtain ⟨front, back, rfl⟩ := List.append_of_mem member
  rw [joined_append, joined_cons, List.length_append, List.length_append, length_bytes]
  omega

theorem Entry.length_bytes_packet (entry : Entry) : entry.packet.bytes.length = 8 + entry.key.length := by
  rw [Packet.length_bytes, Packet.encodedLength, Packet.headerSize, packet, content, List.length_append, length_be32]
  omega

namespace Part

variable {packets : List Packet} {fault : Fault}

/-- Encoding stops only at a packet that is too big. -/
theorem mapM_encode_eq_error (stopped : (packets.map packet).mapM encode = .error fault) :
    ∃ packet ∈ packets, ¬ packet.Fits ∧ fault = .packetTooBig packet.content.length := by
  induction packets with
  | nil => cases stopped
  | cons first rest ih =>
    rw [List.map_cons, List.mapM_cons, encode, Packet.encode] at stopped
    by_cases fits : first.Fits
    · rw [if_pos fits] at stopped
      cases behind : (rest.map packet).mapM encode with
      | ok chunks =>
        rw [behind] at stopped
        cases stopped
      | error other =>
        rw [behind] at stopped
        cases stopped
        obtain ⟨packet, member, tooBig, same⟩ := ih behind
        exact ⟨packet, List.mem_cons_of_mem first member, tooBig, same⟩
    · rw [if_neg fits] at stopped
      cases stopped
      exact ⟨first, List.mem_cons_self, fits, rfl⟩

theorem encodeAll_packets_eq_error (stopped : encodeAll (packets.map packet) = .error fault) :
    ∃ packet ∈ packets, ¬ packet.Fits ∧ fault = .packetTooBig packet.content.length := by
  cases chunks : (packets.map packet).mapM encode with
  | ok found =>
    rw [encodeAll, chunks] at stopped
    cases stopped
  | error other =>
    rw [encodeAll, chunks] at stopped
    cases stopped
    exact mapM_encode_eq_error chunks

theorem encodeAll_container_eq_error {container : Container}
    (stopped : encodeAll (.header container.header :: container.packets.map packet) = .error fault) :
    ∃ packet ∈ container.packets, ¬ packet.Fits ∧ fault = .packetTooBig packet.content.length := by
  cases chunks : (container.packets.map packet).mapM encode with
  | ok found =>
    rw [encodeAll, List.mapM_cons, chunks] at stopped
    cases stopped
  | error other =>
    rw [encodeAll, List.mapM_cons, chunks] at stopped
    cases stopped
    exact mapM_encode_eq_error chunks

end Part

namespace Bundle

/-- The bytes that the active records among some packets take. -/
def recordLength (packets : List Packet) : Nat :=
  (Packet.joined (packets.filter (·.type.role = .active))).length

/-- What is bundled are the active records, the entries and the unknown packets. -/
theorem length_joined_bundled {packets : List Packet} (bundled : ∀ packet ∈ packets, packet.IsBundled) :
    (Packet.joined packets).length = recordLength packets +
      (Packet.joined ((entries packets).map Entry.packet)).length + (Packet.joined (unknownAmong packets)).length := by
  rw [← filter_entry bundled]
  simp only [recordLength, unknownAmong]
  induction packets with
  | nil => rfl
  | cons packet rest ih =>
    have others := ih fun other member => bundled other (List.mem_cons_of_mem _ member)
    have here := bundled packet List.mem_cons_self
    have isEntry : packet.type = .entry ↔ packet.type.role = .entry := (PacketType.role_eq_iff rfl).symm
    simp only [List.filter_cons, Packet.length_joined_cons, decide_eq_true_eq, isEntry, Packet.IsBundled]
      at here others ⊢
    cases kind : packet.type.role with
    | active => simp [others, Packet.length_joined_cons]; omega
    | entry => simp [others, Packet.length_joined_cons]; omega
    | unknown => simp [others, Packet.length_joined_cons]; omega
    | dataKey => simp [kind] at here
    | salt => simp [kind] at here
    | bundle => simp [kind] at here

section Described

variable {packets : List Packet} {bundle : Bundle}

theorem length_content_of_active {packet : Packet} (bundled : packet.IsBundled) (active : packet.type.role = .active) :
    ∃ id, ActiveRecord.parse packet.content = .ok id ∧ packet.content.length = if id.isSome then 4 else 0 := by
  simp only [Packet.IsBundled, active] at bundled
  obtain ⟨id, parsed⟩ := bundled
  obtain ⟨content, -⟩ := ActiveRecord.eq_content_of_parse parsed
  refine ⟨id, parsed, ?_⟩
  rw [content]
  cases id <;> rfl

/-- A record that names the active key takes eight bytes. -/
theorem Describes.recordLength_of_recorded (described : Describes packets bundle)
    (recorded : recordedActive packets ≠ none) : recordLength packets = 8 := by
  obtain ⟨id, found⟩ := Option.ne_none_iff_exists'.mp recorded
  obtain ⟨packet, member, here⟩ := List.exists_of_findSome?_eq_some found
  split at here
  case isFalse => cases here
  case isTrue active =>
    obtain ⟨_, parsed, size⟩ := length_content_of_active (described.bundled packet member) active
    rw [parsed] at here
    dsimp only at here
    subst here
    -- There is at most one record, so this one is all of them.
    have single := described.single
    rw [activeCount, List.countP_eq_length_filter] at single
    have inside : packet ∈ packets.filter (·.type.role = .active) := List.mem_filter.mpr ⟨member, by simpa using active⟩
    have only : packets.filter (·.type.role = .active) = [packet] := by
      obtain ⟨other, rest⟩ := List.length_eq_one_iff.mp (Nat.le_antisymm single (List.length_pos_of_mem inside))
      rw [rest] at inside ⊢
      rw [List.mem_singleton.mp inside]
    simp [recordLength, only, Packet.length_joined_cons, Packet.encodedLength, Packet.headerSize, size]

/-- A bundle is written with a record of its active key, whatever record it was read with. -/
theorem Describes.length_packets (described : Describes packets bundle) :
    (Packet.joined bundle.packets).length + recordLength packets = (Packet.joined packets).length + 8 := by
  have parts := length_joined_bundled described.bundled
  have sameLength : (Packet.joined (bundle.view.keys.entries.map Entry.packet)).length =
      (Packet.joined ((entries packets).map Entry.packet)).length := by
    exact ((described.perm.map Entry.packet).flatMap_right Packet.bytes).length_eq
  have record : (ActiveRecord.packet (some bundle.view.activeId)).bytes.length = 8 := rfl
  rw [Bundle.packets, Packet.joined_cons, Packet.joined_append, described.extras]
  simp only [List.length_append, record, sameLength]
  omega

theorem Describes.fits (described : Describes packets bundle) (fits : ∀ packet ∈ packets, packet.Fits) :
    ∀ packet ∈ bundle.packets, packet.Fits := by
  intro packet member
  simp only [Bundle.packets, List.mem_cons, List.mem_append] at member
  rcases member with rfl | stored | extra
  · have short : (4 : Nat) ≤ max24 := by decide
    exact short
  · have inside : packet ∈ (entries packets).map Entry.packet :=
      (described.perm.map Entry.packet).mem_iff.mp stored
    rw [← filter_entry described.bundled] at inside
    exact fits packet ((List.mem_filter.mp inside).1)
  · rw [described.extras] at extra
    exact fits packet (mem_unknownAmong.mp extra).1

end Described

end Bundle

namespace Ring

/-- The size of the sealed bundle that a ring is written with. -/
def sealedSize (ring : Ring) : Nat :=
  Sealing.sealedLength (Packet.joined ring.bundle.packets).length

section Size

variable {ring next : Ring} {accessKey : Bytes}

theorem sealedSize_of_parts (ring : Ring) :
    ring.sealedSize = 48 + (Packet.joined (ring.view.keys.entries.map Entry.packet)).length +
      (Packet.joined ring.bundleExtras).length := by
  have record : (ActiveRecord.packet (some ring.view.activeId)).bytes.length = 8 := rfl
  have packets : ring.bundle.packets = ActiveRecord.packet (some ring.view.activeId) ::
      (ring.view.keys.entries.map Entry.packet ++ ring.bundleExtras) := rfl
  rw [sealedSize, packets, Packet.joined_cons, Packet.joined_append]
  simp only [List.length_append, record, Sealing.sealedLength, Sealing.nonceLength, Sealing.tagLength]
  omega

theorem sealedSize_congr (sameKeys : next.view.keys = ring.view.keys)
    (sameExtras : next.bundleExtras = ring.bundleExtras) :
    next.sealedSize = ring.sealedSize := by
  rw [sealedSize_of_parts, sealedSize_of_parts, sameKeys, sameExtras]

theorem packets_of_single {key : Bytes} (view : ring.view = .single key) (extras : ring.bundleExtras = []) :
    ring.bundle.packets = [ActiveRecord.packet (some 1), Entry.packet ⟨1, key⟩] := by
  rw [bundle, view, extras]
  rfl

theorem sealedSize_single {key : Bytes} (view : ring.view = .single key) (extras : ring.bundleExtras = []) :
    ring.sealedSize = 56 + key.length := by
  have entries : ring.view.keys.entries.map Entry.packet = [Entry.packet ⟨1, key⟩] := by rw [view]; rfl
  have one : (Entry.packet ⟨1, key⟩).bytes.length = 8 + key.length := Entry.length_bytes_packet _
  rw [sealedSize_of_parts, entries, extras, Packet.joined_cons, Packet.joined_nil, List.append_nil, one,
    List.length_nil]
  omega

/-- Another key takes its length and the eight bytes in front of it. -/
theorem WellFormed.sealedSize_add {key : Bytes} {id : KeyId} {world later : World} (formed : ring.WellFormed accessKey)
    (added : ring.add key world = .ok (id, next) later) : next.sealedSize = ring.sealedSize + 8 + key.length := by
  obtain ⟨-, room, rfl, rfl⟩ := (add_eq_ok_iff world).mp ⟨later, added⟩
  have above : ∀ other ∈ ring.view.keys.entries, other.id < (⟨ring.maxId + 1, key⟩ : Entry).id := formed.lt_next room
  have entries := Snapshot.entries_insert_above above
  have one : (Entry.packet ⟨ring.maxId + 1, key⟩).bytes.length = 8 + key.length := Entry.length_bytes_packet _
  rw [sealedSize_of_parts, sealedSize_of_parts, entries, List.map_append, Packet.joined_append, List.length_append,
    List.map_cons, List.map_nil, Packet.joined_cons, Packet.joined_nil, List.append_nil, one]
  dsimp only
  omega

end Size

section Overflow

variable {ring : Ring} {accessKey : Bytes} {world : World}

theorem parts_eq (ring : Ring) (sealedBundle : Bytes) :
    ring.parts sealedBundle =
      .header (ring.container sealedBundle).header :: (ring.container sealedBundle).packets.map .packet := rfl

/-- Of all that stands in the container, only the salt and the bundle can be too big. -/
theorem WellFormed.big_packet (formed : ring.WellFormed accessKey) (saltFits : ring.salt.length ≤ max24)
    {sealedBundle : Bytes} {packet : Packet} (member : packet ∈ (ring.container sealedBundle).packets)
    (big : ¬ packet.Fits) : packet = ⟨.bundle, sealedBundle⟩ := by
  simp only [container, List.mem_cons] at member
  rcases member with rfl | rfl | rfl | extra
  · exact absurd saltFits big
  · have keyFits : ring.wrappedKey.length ≤ max24 := by
      rw [formed.length_wrappedKey]
      decide
    exact absurd keyFits big
  · rfl
  · exact absurd (formed.extras packet extra).2 big

/-- The bundle of a ring is sealed into as many bytes as its packets call for. -/
theorem length_sealed {nonce sealedBundle : Bytes} (nonceFits : nonce.length = Sealing.nonceLength)
    (bundleSealed :
      Sealing.sealWith ring.dataKey.bytes nonce (Packet.joined ring.bundle.packets) [] = .ok sealedBundle) :
    sealedBundle.length = ring.sealedSize :=
  Sealing.length_of_openWith (Sealing.openWith_eq_ok_iff.mpr ⟨nonce, nonceFits, bundleSealed⟩)

/-- A bundle whose packets fit, but which is too big itself, stops the writing. -/
theorem WellFormed.encode_of_big (formed : ring.WellFormed accessKey) (saltFits : ring.salt.length ≤ max24)
    (innerFits : ∀ packet ∈ ring.bundle.packets, packet.Fits)
    (within : Sealing.withinCounter (Packet.joined ring.bundle.packets) = true)
    (enough : world.supply.Has Sealing.nonceLength) (big : max24 < ring.sealedSize) :
    ∃ later, ring.encode world = .error (.fault (.packetTooBig ring.sealedSize)) later := by
  obtain ⟨sealedBundle, wrapped⟩ : ∃ sealedBundle, Sealing.sealWith ring.dataKey.bytes
      (world.supply.segment world.supply.drawn Sealing.nonceLength) (Packet.joined ring.bundle.packets) [] =
        .ok sealedBundle := ⟨_, Sealing.sealWith_envelope _ _ formed.dataKeyFits within⟩
  have size := length_sealed (Supply.length_segment _ _ _) wrapped
  obtain ⟨later, packed⟩ := (Sealing.sealFresh_eq_ok_iff world).mpr ⟨enough, wrapped⟩
  have plain : Part.encodeAll ring.bundle.parts = .ok (Packet.joined ring.bundle.packets) := by
    rw [Bundle.encodeAll_parts]
    exact Part.encodeAll_packets.mpr ⟨innerFits, rfl⟩
  have bundled : ring.sealBundle world = .ok sealedBundle later := by
    rw [sealBundle, plain]
    exact Action.mapCause_eq_ok.mpr packed
  -- The bundle is sealed, and it is too big only for the container.
  have unfit : ¬ Packet.Fits ⟨.bundle, sealedBundle⟩ := by
    rw [Packet.Fits, size]
    exact Nat.not_le.mpr big
  have inside : ⟨.bundle, sealedBundle⟩ ∈ (ring.container sealedBundle).packets := by simp [container]
  have stops : Part.encodeAll (ring.parts sealedBundle) = .error (.packetTooBig ring.sealedSize) := by
    rw [parts_eq]
    cases built : Part.encodeAll (.header _ :: (ring.container sealedBundle).packets.map .packet) with
    | ok data => exact absurd ((Part.encodeAll_container.mp built).1 _ inside) unfit
    | error fault =>
      obtain ⟨packet, member, tooBig, rfl⟩ := Part.encodeAll_container_eq_error built
      rw [formed.big_packet saltFits member tooBig, size]
  refine ⟨later, ?_⟩
  rw [encode, Action.bind_of_ok bundled]
  exact Action.orFault_eq_error.mpr ⟨_, stops, rfl, rfl⟩

end Overflow

section Loaded

variable {layers : Layers} {data : Bytes} {credential : Credential}

theorem Layers.bundle_ring (layers : Layers) : layers.ring.bundle = layers.bundle := rfl

theorem Layers.salt_fits (opened : Layers.Of layers data credential) : layers.salt.length ≤ max24 := by
  have fits := (Container.parse_eq_ok_iff.mp opened.parsed).2
  rcases opened.holds.salt with one | ⟨-, none⟩
  · have inside : ⟨.salt, layers.salt⟩ ∈ layers.container.packets.filter (·.type = .salt) := by simp [one]
    exact fits _ (List.mem_filter.mp inside).1
  · simp [none]

theorem Layers.bundle_fits (opened : Layers.Of layers data credential) : layers.sealedBundle.length ≤ max24 := by
  have fits := (Container.parse_eq_ok_iff.mp opened.parsed).2
  have inside : ⟨.bundle, layers.sealedBundle⟩ ∈ layers.container.packets.filter (·.type = .bundle) := by
    simp [opened.holds.bundle]
  exact fits _ (List.mem_filter.mp inside).1

/-- The bundle that a loaded ring is written with is as long as the one that was read, but for the record of the active
key. -/
theorem Layers.sealedSize_eq (opened : Layers.Of layers data credential) :
    layers.ring.sealedSize + Bundle.recordLength layers.inner = layers.sealedBundle.length + 8 := by
  have read := Sealing.length_of_openWith opened.bundleOpens
  have written := opened.described.length_packets
  rw [← (Packet.parseAll_eq_ok_iff.mp opened.innerParsed).1] at written
  rw [sealedSize, bundle_ring, read]
  simp only [Sealing.sealedLength]
  omega

theorem Layers.packets_fit (opened : Layers.Of layers data credential) :
    ∀ packet ∈ layers.ring.bundle.packets, packet.Fits :=
  opened.described.fits (Packet.parseAll_eq_ok_iff.mp opened.innerParsed).2

theorem Layers.encode_of_big {world : World} (opened : Layers.Of layers data credential)
    (enough : world.supply.Has Sealing.nonceLength) (big : max24 < layers.ring.sealedSize) :
    ∃ later, layers.ring.encode world = .error (.fault (.packetTooBig layers.ring.sealedSize)) later := by
  have within : Sealing.withinCounter (Packet.joined layers.ring.bundle.packets) = true := by
    have size := sealedSize_eq opened
    have bundleFits := bundle_fits opened
    simp only [sealedSize, Sealing.sealedLength, Sealing.nonceLength, Sealing.tagLength, max24] at size bundleFits
    simp only [Sealing.withinCounter, decide_eq_true_eq]
    omega
  exact (wellFormed opened).encode_of_big (salt_fits opened) (packets_fit opened) within enough big

end Loaded

/-- What has been read can be written again, unless its bundle has grown out of its packet. It grows by the record of
the active key, and only where the file had none or an empty one. -/
theorem resave {source : Source} {credential : Credential} {ring : Ring} {begun ended world : World}
    (accepted : read source credential begun = .ok ring ended) (enough : world.supply.Has Sealing.nonceLength) :
    ∃ data layers, source.contents = .ok data ∧ Layers.Of layers data credential ∧
      ring.sealedSize + Bundle.recordLength layers.inner = layers.sealedBundle.length + 8 ∧
      (ring.sealedSize ≤ max24 →
        ∃ bytes later, ring.write .boundless world = .ok ⟨bytes, .ok bytes.length⟩ later) ∧
      (max24 < ring.sealedSize →
        ∃ later, ring.write .boundless world = .error (.fault (.packetTooBig ring.sealedSize)) later) ∧
      (Bundle.recordedActive layers.inner ≠ none → ring.sealedSize ≤ max24) := by
  obtain ⟨data, layers, contents, opened, rfl⟩ := (read_eq_ok_iff begun).mp ⟨ended, accepted⟩
  have formed := Layers.wellFormed opened
  have size := Layers.sealedSize_eq opened
  have bundleFits := Layers.bundle_fits opened
  have saltFits : layers.ring.salt.length ≤ max24 := Layers.salt_fits opened
  refine ⟨data, layers, contents, opened, size, ?_, ?_, ?_⟩
  · intro small
    obtain ⟨bytes, encoded⟩ :=
      (encode_succeeds_iff formed world).mpr ⟨Layers.packets_fit opened, enough, saltFits, small⟩
    obtain ⟨later, written⟩ := (write_eq_ok_iff world).mpr ⟨bytes, encoded, rfl⟩
    exact ⟨bytes, later, written⟩
  · intro big
    obtain ⟨later, stopped⟩ := Layers.encode_of_big opened enough big
    exact ⟨later, Action.bind_of_error stopped _⟩
  · intro recorded
    rw [opened.described.recordLength_of_recorded recorded] at size
    omega

/-- The record of the foreign bundle names no key, and the ring is written again. -/
theorem resave_foreign :
    ∃ ended bytes later,
      read (.ofBytes foreign.container.bytes) (.fixed ⟨List.replicate 32 1⟩) (worldFrom []) = .ok foreign.ring ended ∧
      (worldFrom []).supply.Has Sealing.nonceLength ∧
      foreign.ring.write .boundless (worldFrom []) = .ok ⟨bytes, .ok bytes.length⟩ later := by
  obtain ⟨ended, accepted⟩ := (read_eq_ok_iff (worldFrom [])).mpr
    ⟨_, foreign, Source.contents_ofBytes foreign.container.bytes, foreign_opens, rfl⟩
  have enough : (worldFrom []).supply.Has Sealing.nonceLength := ⟨by decide, by simp [worldFrom]⟩
  obtain ⟨_, _, _, _, _, writes, _⟩ := resave accepted enough
  obtain ⟨bytes, later, written⟩ := writes (by decide)
  exact ⟨ended, bytes, later, accepted, enough, written⟩

section Lone

/-- A keyring of one key that has no record of the active one. -/
def lone (key : Bytes) : Layers :=
  let dataKey : Bytes := List.replicate 32 3
  let wrappedKey := Sealing.envelope (List.replicate 32 1) (List.replicate 24 0) dataKey []
  let sealedBundle := Sealing.envelope dataKey (List.replicate 24 0) (Packet.joined [Entry.packet ⟨1, key⟩]) []
  { container := ⟨.current, [⟨.dataKey, wrappedKey⟩, ⟨.bundle, sealedBundle⟩]⟩
    salt := []
    wrappedKey := wrappedKey
    sealedBundle := sealedBundle
    dataKey := dataKey
    plain := Packet.joined [Entry.packet ⟨1, key⟩]
    inner := [Entry.packet ⟨1, key⟩]
    bundle := ⟨.single key, []⟩ }

variable {key : Bytes}

theorem length_lone_plain : (lone key).plain.length = 8 + key.length := by
  have plain : (lone key).plain = Packet.joined [Entry.packet ⟨1, key⟩] := rfl
  rw [plain, Packet.joined_cons, Packet.joined_nil, List.append_nil, Entry.length_bytes_packet]

theorem lone_opens (fits : 48 + key.length ≤ max24) :
    Layers.Of (lone key) (lone key).container.bytes (.fixed ⟨List.replicate 32 1⟩) := by
  have plainSize := @length_lone_plain key
  have within : Sealing.withinCounter (lone key).plain = true := by
    simp only [max24] at fits
    simp only [Sealing.withinCounter, decide_eq_true_eq]
    omega
  have bundleOpens : Sealing.openWith (lone key).dataKey (lone key).sealedBundle [] = .ok (lone key).plain :=
    Sealing.openWith_envelope [] rfl rfl within
  have bundleSize : (lone key).sealedBundle.length ≤ max24 := by
    rw [Sealing.length_of_openWith bundleOpens, plainSize]
    simp only [Sealing.sealedLength, Sealing.nonceLength, Sealing.tagLength]
    omega
  have wrappedKeySize : (lone key).wrappedKey.length ≤ max24 := by
    simp [lone, Sealing.length_envelope, Sealing.tagLength, max24]
  have listed : (lone key).container.packets =
      [⟨.dataKey, (lone key).wrappedKey⟩, ⟨.bundle, (lone key).sealedBundle⟩] := rfl
  have containerFits : ∀ packet ∈ (lone key).container.packets, packet.Fits := by
    simp only [listed, List.mem_cons, List.not_mem_nil, or_false, forall_eq_or_imp, forall_eq]
    exact ⟨wrappedKeySize, bundleSize⟩
  have placed : ∀ packet ∈ (lone key).container.packets, packet.type ≠ .entry ∧ packet.type ≠ .active := by
    simp only [listed, List.mem_cons, List.not_mem_nil, or_false, forall_eq_or_imp, forall_eq]
    decide
  have innerFits : ∀ packet ∈ (lone key).inner, packet.Fits := by
    intro packet member
    have size := Packet.encodedLength_le_joined member
    have plain : (lone key).plain = Packet.joined (lone key).inner := rfl
    rw [← plain, plainSize] at size
    simp only [Packet.encodedLength, Packet.headerSize] at size
    rw [Packet.Fits]
    omega
  have nonzero : (1 : KeyId) ≠ 0 := by decide
  have parsed : Entry.parse (Entry.packet ⟨1, key⟩).content = .ok ⟨1, key⟩ := Entry.parse_content nonzero
  have entries : Bundle.entries (lone key).inner = [⟨1, key⟩] := Bundle.entries_cons rfl parsed []
  refine ⟨Container.parse_eq_ok_iff.mpr ⟨rfl, containerFits⟩, ⟨rfl, placed, rfl, rfl, Or.inr ⟨rfl, rfl⟩⟩, rfl,
    Sealing.openWith_envelope [] rfl rfl rfl, rfl, bundleOpens, Packet.parseAll_eq_ok_iff.mpr ⟨rfl, innerFits⟩, ?_, ?_,
    ?_, ?_, rfl, rfl⟩
  · intro packet member
    rw [List.mem_singleton.mp member]
    exact ⟨_, parsed⟩
  · exact Nat.zero_le 1
  · rw [entries]
    exact .refl _
  · exact List.pairwise_singleton _ _

/-- The one key may be so long that a record of it does not fit any more. -/
theorem lone_overflows (fits : 48 + key.length ≤ max24) (long : max24 < 56 + key.length) :
    ∃ ended later,
      read (.ofBytes (lone key).container.bytes) (.fixed ⟨List.replicate 32 1⟩) (worldFrom []) =
        .ok (lone key).ring ended ∧
      (lone key).ring.write .boundless (worldFrom []) = .error (.fault (.packetTooBig (56 + key.length))) later := by
  have opened := lone_opens fits
  have size := Layers.sealedSize_eq opened
  have noRecord : Bundle.recordLength (lone key).inner = 0 := rfl
  rw [noRecord, Sealing.length_of_openWith opened.bundleOpens, length_lone_plain] at size
  simp only [Sealing.sealedLength, Sealing.nonceLength, Sealing.tagLength] at size
  have grown : (lone key).ring.sealedSize = 56 + key.length := by omega
  have big : max24 < (lone key).ring.sealedSize := by omega
  have enough : (worldFrom []).supply.Has Sealing.nonceLength := ⟨by decide, by simp [worldFrom]⟩
  obtain ⟨ended, accepted⟩ := (read_eq_ok_iff (worldFrom [])).mpr
    ⟨_, lone key, Source.contents_ofBytes (lone key).container.bytes, opened, rfl⟩
  obtain ⟨later, stopped⟩ := Layers.encode_of_big opened enough big
  rw [grown] at stopped
  exact ⟨ended, later, accepted, Action.bind_of_error stopped _⟩

/-- A key of 16777167 bytes fills the bundle to the last byte that a packet can hold. -/
theorem resave_lone :
    ∃ ended later,
      read (.ofBytes (lone (List.replicate 16777167 0)).container.bytes) (.fixed ⟨List.replicate 32 1⟩) (worldFrom []) =
        .ok (lone (List.replicate 16777167 0)).ring ended ∧
      (lone (List.replicate 16777167 0)).ring.write .boundless (worldFrom []) =
        .error (.fault (.packetTooBig 16777223)) later := by
  have size : (List.replicate 16777167 (0 : UInt8)).length = 16777167 := List.length_replicate
  have fits : 48 + (List.replicate 16777167 (0 : UInt8)).length ≤ max24 := by
    rw [size]
    decide
  have long : max24 < 56 + (List.replicate 16777167 (0 : UInt8)).length := by
    rw [size]
    decide
  have overflows := lone_overflows fits long
  rw [size] at overflows
  exact overflows

end Lone

end Ring

end Keyring
