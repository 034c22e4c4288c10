import Keyring.Proofs.Bundle

namespace Keyring

/-- The types that have a meaning. -/
def PacketType.defined : List PacketType :=
  [.dataKey, .salt, .entry, .active, .bundle]

theorem PacketType.role_eq_unknown_iff_notMem {type : PacketType} : type.role = .unknown ↔ type ∉ defined := by
  rw [role_eq_unknown_iff]
  constructor
  · intro others
    simp [defined, others .dataKey _ rfl, others .salt _ rfl, others .entry _ rfl, others .active _ rfl,
      others .bundle _ rfl]
  · rintro notMem role known defined rfl
    cases role <;> cases defined <;> simp [PacketType.defined] at notMem

theorem Snapshot.exists_active {keys : KeySet} {entry : Entry} (member : entry ∈ keys.entries) :
    ∃ view : Snapshot, view.keys = keys ∧ view.activeId = entry.id := by
  cases found : keys.find? entry.id with
  | none =>
    have absent := List.findIdx?_eq_none_iff.mp found entry member
    simp at absent
  | some position =>
    exact ⟨⟨keys, position, KeySet.lt_length_of_find? found⟩, rfl, Snapshot.activeId_of_find? found⟩

/-- The key in the first position has the lowest id. -/
theorem Snapshot.activeId_le {view : Snapshot} (ascending : KeySet.Ascending view.keys.entries)
    (lowest : view.active = 0) {entry : Entry} (member : entry ∈ view.keys.entries) : view.activeId ≤ entry.id := by
  obtain ⟨i, within, rfl⟩ := List.getElem_of_mem member
  have first : view.activeId = view.keys.entries[0].id := by
    simp [activeId, activeEntry, lowest]
  rw [first]
  rcases Nat.eq_zero_or_pos i with rfl | later
  · exact UInt32.le_refl _
  · exact UInt32.le_of_lt (List.pairwise_iff_getElem.mp ascending 0 i _ within later)

namespace Bundle

/-- The packets of a valid bundle, with the entries that are listed in it and its active record, if it
has one. Nothing is said of the order in which packets of different types stand. -/
structure Valid (packets : List Packet) (listed : List Entry) (recorded : Option (Option KeyId)) : Prop where
  allowed : ∀ packet ∈ packets, packet.type ∉ [.dataKey, .salt, .bundle]
  entries : packets.filter (·.type = .entry) = listed.map Entry.packet
  nonzero : ∀ entry ∈ listed, entry.id ≠ 0
  distinct : listed.Pairwise (·.id ≠ ·.id)
  nonempty : listed ≠ []
  records : packets.filter (·.type = .active) = recorded.toList.map ActiveRecord.packet
  known : ∀ id, recorded = some (some id) → id ≠ 0 ∧ ∃ entry ∈ listed, entry.id = id

/-- What is decoded from a valid bundle. -/
structure Holds (bundle : Bundle) (packets : List Packet) (listed : List Entry)
    (recorded : Option (Option KeyId)) : Prop where
  perm : bundle.view.keys.entries.Perm listed
  ascending : KeySet.Ascending bundle.view.keys.entries
  active : ∀ id, recorded.join = some id → bundle.view.activeId = id
  lowest : recorded.join = none → ∀ entry ∈ listed, bundle.view.activeId ≤ entry.id
  extras : bundle.extras = packets.filter fun packet => packet.type ∉ PacketType.defined

theorem unknownAmong_eq (packets : List Packet) :
    unknownAmong packets = packets.filter fun packet => packet.type ∉ PacketType.defined := by
  simp only [unknownAmong, PacketType.role_eq_unknown_iff_notMem]

theorem filter_active (packets : List Packet) :
    packets.filter (·.type.role = .active) = packets.filter (·.type = .active) := by
  refine List.filter_congr ?_
  intro packet _
  have same : packet.type.role = .active ↔ packet.type = .active := PacketType.role_eq_iff rfl
  exact decide_eq_decide.mpr same

theorem entries_filter (packets : List Packet) : entries (packets.filter (·.type = .entry)) = entries packets := by
  rw [entries, List.filterMap_filter]
  congr 1
  funext packet
  have same : packet.type.role = .entry ↔ packet.type = .entry := PacketType.role_eq_iff rfl
  by_cases type : packet.type = .entry <;> simp [same, type]

/-- Only the active records decide which id is on record. -/
theorem recordedActive_filter (packets : List Packet) :
    recordedActive (packets.filter (·.type = .active)) = recordedActive packets := by
  rw [← filter_active]
  induction packets with
  | nil => rfl
  | cons packet rest ih =>
    by_cases role : packet.type.role = .active
    · rw [List.filter_cons_of_pos (by simpa using role)]
      simp only [recordedActive, List.findSome?_cons] at ih ⊢
      rw [ih]
    · rw [List.filter_cons_of_neg (by simpa using role), ih]
      simp [recordedActive, role]

theorem recordedActive_of_records {packets : List Packet} {recorded : Option (Option KeyId)}
    (records : packets.filter (·.type = .active) = recorded.toList.map ActiveRecord.packet)
    (nonzero : recorded ≠ some (some 0)) : recordedActive packets = recorded.join := by
  rw [← recordedActive_filter, records]
  cases recorded with
  | none => rfl
  | some id =>
    have parsed : ActiveRecord.parse (ActiveRecord.packet id).content = .ok id :=
      ActiveRecord.parse_content (by simpa using nonzero)
    simp only [recordedActive, Option.toList_some, List.map_cons, List.map_nil, List.findSome?_cons,
      ActiveRecord.role_packet, parsed, if_true, Option.join_some]
    cases id <;> rfl

theorem activeCount_eq (packets : List Packet) : activeCount packets = (packets.filter (·.type = .active)).length := by
  rw [activeCount, List.countP_eq_length_filter, filter_active]

/-- The one active record that a bundle may have. -/
theorem exists_record {packets : List Packet} (bundled : ∀ packet ∈ packets, packet.IsBundled)
    (single : activeCount packets ≤ 1) :
    ∃ recorded, packets.filter (·.type = .active) = recorded.toList.map ActiveRecord.packet ∧
      recorded ≠ some (some 0) := by
  rw [activeCount_eq] at single
  generalize stored : packets.filter (·.type = .active) = records at single ⊢
  match records, single with
  | [], _ => exact ⟨none, rfl, by simp⟩
  | [packet], _ =>
    have member : packet ∈ packets.filter (·.type = .active) := by simp [stored]
    obtain ⟨inside, isActive⟩ := List.mem_filter.mp member
    have type : packet.type = .active := by simpa using isActive
    have here := bundled packet inside
    simp only [Packet.IsBundled, type, show PacketType.role .active = .active from rfl] at here
    obtain ⟨id, parsed⟩ := here
    obtain ⟨content, nonzero⟩ := ActiveRecord.eq_content_of_parse parsed
    have written : packet = ActiveRecord.packet id := by
      cases packet
      simp_all [ActiveRecord.packet]
    exact ⟨some id, by simp [written], by simpa using nonzero⟩

theorem Describes.valid {packets : List Packet} {bundle : Bundle} (described : Describes packets bundle) :
    ∃ listed recorded, Valid packets listed recorded ∧ Holds bundle packets listed recorded := by
  obtain ⟨recorded, records, nonzero⟩ := exists_record described.bundled described.single
  have active := described.active
  rw [recordedActive_of_records records nonzero] at active
  have named : ∀ id, recorded.join = some id → bundle.view.activeId = id := by
    intro id isRecorded
    rw [isRecorded] at active
    exact active
  refine ⟨entries packets, recorded, ?_, ?_⟩
  · refine ⟨?_, filter_entry described.bundled, fun _ => nonzero_of_mem_entries, ?_, ?_, records, ?_⟩
    · intro packet member kind
      have here := described.bundled packet member
      simp only [List.mem_cons, List.not_mem_nil, or_false] at kind
      unfold Packet.IsBundled at here
      rcases kind with type | type | type <;> rw [type] at here <;> exact here
    · exact (described.perm.pairwise_iff fun ne => Ne.symm ne).mp described.ascending.distinct
    · exact fun empty => bundle.view.entries_ne_nil (by simpa [empty] using described.perm)
    · rintro id rfl
      refine ⟨fun zero => nonzero (by rw [zero]), ?_⟩
      obtain ⟨entry, member, same⟩ := List.mem_map.mp bundle.view.activeId_mem
      exact ⟨entry, described.perm.mem_iff.mp member, same.trans (named id rfl)⟩
  · refine ⟨described.perm, described.ascending, named, ?_, ?_⟩
    · intro unrecorded entry member
      rw [unrecorded] at active
      exact Snapshot.activeId_le described.ascending active (described.perm.mem_iff.mpr member)
    · rw [described.extras, unknownAmong_eq]

namespace Valid

variable {packets : List Packet} {listed : List Entry} {recorded : Option (Option KeyId)}
variable (valid : Valid packets listed recorded)
include valid

theorem recorded_nonzero : recorded ≠ some (some 0) :=
  fun zero => (valid.known 0 zero).1 rfl

theorem isBundled : ∀ packet ∈ packets, packet.IsBundled := by
  intro packet member
  have allowed := valid.allowed packet member
  unfold Packet.IsBundled
  cases kind : packet.type.role with
  | active =>
    have type : packet.type = .active := (PacketType.role_eq_iff rfl).mp kind
    have inside : packet ∈ packets.filter (·.type = .active) := List.mem_filter.mpr ⟨member, by simpa using type⟩
    rw [valid.records] at inside
    obtain ⟨id, isRecorded, rfl⟩ := List.mem_map.mp inside
    refine ⟨id, ActiveRecord.parse_content ?_⟩
    rintro rfl
    exact valid.recorded_nonzero (by simpa using isRecorded)
  | entry =>
    have type : packet.type = .entry := (PacketType.role_eq_iff rfl).mp kind
    have inside : packet ∈ packets.filter (·.type = .entry) := List.mem_filter.mpr ⟨member, by simpa using type⟩
    rw [valid.entries] at inside
    obtain ⟨entry, isListed, rfl⟩ := List.mem_map.mp inside
    exact ⟨entry, Entry.parse_content (valid.nonzero entry isListed)⟩
  | unknown => trivial
  | dataKey =>
    have type : packet.type = .dataKey := (PacketType.role_eq_iff rfl).mp kind
    simp [type] at allowed
  | salt =>
    have type : packet.type = .salt := (PacketType.role_eq_iff rfl).mp kind
    simp [type] at allowed
  | bundle =>
    have type : packet.type = .bundle := (PacketType.role_eq_iff rfl).mp kind
    simp [type] at allowed

theorem entries_eq : Bundle.entries packets = listed := by
  rw [← entries_filter, valid.entries, entries_map_packet valid.nonzero]

theorem exists_described : ∃ bundle, Describes packets bundle := by
  obtain ⟨keys, perm, ascending⟩ : ∃ keys : KeySet, keys.entries.Perm listed ∧ KeySet.Ascending keys.entries :=
    ⟨⟨_⟩, List.mergeSort_perm _ _, KeySet.ascending_sorted valid.distinct⟩
  have recordedId := recordedActive_of_records valid.records valid.recorded_nonzero
  have single : activeCount packets ≤ 1 := by
    rw [activeCount_eq, valid.records]
    cases recorded <;> simp
  have chosen : ∃ view : Snapshot, view.keys = keys ∧ Follows view (recordedActive packets) := by
    rw [recordedId]
    cases named : recorded.join with
    | none =>
      have stored : 0 < keys.entries.length := by
        rw [perm.length_eq]
        exact List.length_pos_iff.mpr valid.nonempty
      exact ⟨⟨keys, 0, stored⟩, rfl, rfl⟩
    | some id =>
      have isRecorded : recorded = some (some id) := by simpa [Option.join_eq_some_iff] using named
      obtain ⟨_, entry, member, rfl⟩ := valid.known id isRecorded
      exact Snapshot.exists_active (perm.mem_iff.mpr member)
  obtain ⟨view, rfl, follows⟩ := chosen
  refine ⟨⟨view, unknownAmong packets⟩, valid.isBundled, single, ?_, ascending, follows, rfl⟩
  rw [valid.entries_eq]
  exact perm

end Valid

/-- The same packets in another order describe the same view. -/
theorem Describes.reorder {packets others : List Packet} {bundle : Bundle} (described : Describes packets bundle)
    (perm : packets.Perm others) : Describes others ⟨bundle.view, unknownAmong others⟩ := by
  -- there is only one order of at most one active record
  have record : packets.filter (·.type = .active) = others.filter (·.type = .active) := by
    obtain ⟨recorded, records, _⟩ := exists_record described.bundled described.single
    have same := perm.filter (·.type = .active)
    rw [records] at same ⊢
    cases recorded with
    | none => exact same.nil_eq
    | some id => exact List.singleton_perm.mp same
  refine ⟨?_, ?_, ?_, described.ascending, ?_, rfl⟩
  · exact fun packet member => described.bundled packet (perm.mem_iff.mpr member)
  · rw [activeCount, ← perm.countP_eq]
    exact described.single
  · exact described.perm.trans (perm.filterMap _)
  · rw [← recordedActive_filter, ← record, recordedActive_filter]
    exact described.active

theorem Describes.of_perm {packets others : List Packet} {bundle : Bundle} (described : Describes packets bundle)
    (perm : packets.Perm others) (same : unknownAmong packets = unknownAmong others) : Describes others bundle := by
  have reordered := described.reorder perm
  rw [← same, ← described.extras] at reordered
  exact reordered

theorem decode_joined_eq_ok_iff {packets : List Packet} (fit : ∀ packet ∈ packets, packet.Fits) (bundle : Bundle)
    (world : World) :
    (∃ later, decode (Packet.joined packets) world = .ok bundle later) ↔ Describes packets bundle := by
  have parsed : Packet.parseAll 0 (Packet.joined packets) = .ok packets := Packet.parseAll_eq_ok_iff.mpr ⟨rfl, fit⟩
  rw [decode_eq_ok_iff]
  constructor
  · rintro ⟨found, again, described⟩
    rw [parsed] at again
    cases again
    exact described
  · exact fun described => ⟨packets, parsed, described⟩

/-- Decoding accepts the valid bundles and no others. It finds in them what they list, and the order of
the packets does not matter beyond that of the unknown ones. -/
theorem decode_exactly_valid :
    (∀ plain world, (∃ bundle later, decode plain world = .ok bundle later) ↔
      ∃ packets listed recorded, plain = Packet.joined packets ∧ (∀ packet ∈ packets, packet.Fits) ∧
        Valid packets listed recorded) ∧
    (∀ plain world bundle later, decode plain world = .ok bundle later →
      ∃ packets listed recorded, plain = Packet.joined packets ∧ (∀ packet ∈ packets, packet.Fits) ∧
        Valid packets listed recorded ∧ Holds bundle packets listed recorded) ∧
    ∀ packets others : List Packet, packets.Perm others → (∀ packet ∈ packets, packet.Fits) → ∀ world elsewhere,
      ((∃ bundle later, decode (Packet.joined packets) world = .ok bundle later) ↔
        ∃ bundle later, decode (Packet.joined others) elsewhere = .ok bundle later) ∧
      (packets.filter (·.type ∉ PacketType.defined) = others.filter (·.type ∉ PacketType.defined) →
        ∀ bundle, (∃ later, decode (Packet.joined packets) world = .ok bundle later) ↔
          ∃ later, decode (Packet.joined others) elsewhere = .ok bundle later) := by
  refine ⟨?_, ?_, ?_⟩
  · intro plain world
    constructor
    · rintro ⟨bundle, later, decoded⟩
      obtain ⟨packets, parsed, described⟩ := (decode_eq_ok_iff world).mp ⟨later, decoded⟩
      obtain ⟨whole, fit⟩ := Packet.parseAll_eq_ok_iff.mp parsed
      obtain ⟨listed, recorded, valid, _⟩ := described.valid
      exact ⟨packets, listed, recorded, whole, fit, valid⟩
    · rintro ⟨packets, listed, recorded, rfl, fit, valid⟩
      obtain ⟨bundle, described⟩ := valid.exists_described
      exact ⟨bundle, (decode_joined_eq_ok_iff fit bundle world).mpr described⟩
  · intro plain world bundle later decoded
    obtain ⟨packets, parsed, described⟩ := (decode_eq_ok_iff world).mp ⟨later, decoded⟩
    obtain ⟨whole, fit⟩ := Packet.parseAll_eq_ok_iff.mp parsed
    obtain ⟨listed, recorded, valid, holds⟩ := described.valid
    exact ⟨packets, listed, recorded, whole, fit, valid, holds⟩
  · intro packets others perm fit world elsewhere
    have fitOthers : ∀ packet ∈ others, packet.Fits := fun packet member => fit packet (perm.mem_iff.mpr member)
    simp only [decode_joined_eq_ok_iff fit, decode_joined_eq_ok_iff fitOthers, ← unknownAmong_eq]
    refine ⟨⟨?_, ?_⟩, ?_⟩
    · exact fun ⟨bundle, described⟩ => ⟨_, described.reorder perm⟩
    · exact fun ⟨bundle, described⟩ => ⟨_, described.reorder perm.symm⟩
    · intro same bundle
      exact ⟨fun described => described.of_perm perm same, fun described => described.of_perm perm.symm same.symm⟩

end Bundle

end Keyring
