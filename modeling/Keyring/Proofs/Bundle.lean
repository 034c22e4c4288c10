import Keyring.Proofs.Container
import Keyring.Proofs.KeySet
import Keyring.Ring.Bundle

namespace Keyring

/-- The type that a defined role belongs to. -/
def Role.type? : Role → Option PacketType
  | .dataKey => some .dataKey
  | .salt => some .salt
  | .entry => some .entry
  | .active => some .active
  | .bundle => some .bundle
  | .unknown => none

theorem PacketType.role_eq_iff {type known : PacketType} {role : Role} (defined : role.type? = some known) :
    type.role = role ↔ type = known := by
  unfold PacketType.role
  constructor
  · intro same
    cases role <;> cases defined <;> (repeat' split at same) <;> first | assumption | cases same
  · rintro rfl
    cases role <;> cases defined <;> rfl

theorem PacketType.role_eq_unknown_iff {type : PacketType} :
    type.role = .unknown ↔ ∀ role known, Role.type? role = some known → type ≠ known := by
  constructor
  · rintro unknown role known defined rfl
    rw [(role_eq_iff defined).mpr rfl] at unknown
    subst unknown
    cases defined
  · intro others
    unfold PacketType.role
    simp [others .dataKey _ rfl, others .salt _ rfl, others .entry _ rfl, others .active _ rfl,
      others .bundle _ rfl]

/-- The packet that an entry is written as. -/
def Entry.packet (entry : Entry) : Packet :=
  ⟨.entry, entry.content⟩

/-- The packet that the active id is written as. -/
def ActiveRecord.packet (id : Option KeyId) : Packet :=
  ⟨.active, content id⟩

@[simp]
theorem Entry.role_packet (entry : Entry) : entry.packet.type.role = .entry := rfl

@[simp]
theorem ActiveRecord.role_packet (id : Option KeyId) : (packet id).type.role = .active := rfl

/-- A packet that may stand in a bundle: an active record, an entry, or one of unknown type. -/
def Packet.IsBundled (packet : Packet) : Prop :=
  match packet.type.role with
  | .active => ∃ id, ActiveRecord.parse packet.content = .ok id
  | .entry => ∃ entry, Entry.parse packet.content = .ok entry
  | .unknown => True
  | .dataKey | .salt | .bundle => False

namespace Bundle

/-- The number of active records among some packets. -/
def activeCount (packets : List Packet) : Nat :=
  packets.countP fun packet => packet.type.role = .active

theorem inspect_eq_ok_iff {seen : Bool} {packets : List Packet} (world : World) :
    (∃ later, inspect seen packets world = .ok () later) ↔
      (∀ packet ∈ packets, packet.IsBundled) ∧ activeCount packets + seen.toNat ≤ 1 := by
  induction packets generalizing seen world with
  | nil =>
    cases seen <;> simp [inspect, activeCount]
  | cons packet rest ih =>
    unfold inspect
    simp only [List.mem_cons, forall_eq_or_imp, activeCount, List.countP_cons]
    cases kind : packet.type.role with
    | active =>
      simp only [Action.bind_eq_ok, Action.ite_eq_ok, Action.fail_eq_ok, Action.ofExcept_eq_ok,
        Outcome.mapError_eq_ok, Packet.IsBundled, kind]
      cases seen with
      | true => simp
      | false =>
        constructor
        · intro run
          obtain ⟨later, ⟨_, _, _, none, _⟩ | ⟨_, id, _, ⟨parsed, rfl⟩, finished⟩⟩ := run
          · cases none
          · obtain ⟨bundled, few⟩ := (ih _).mp ⟨later, finished⟩
            refine ⟨⟨⟨id, parsed⟩, bundled⟩, ?_⟩
            simpa [activeCount] using few
        · rintro ⟨⟨⟨id, parsed⟩, bundled⟩, few⟩
          have none : activeCount rest + true.toNat ≤ 1 := by simpa [activeCount] using few
          obtain ⟨later, finished⟩ := (ih world).mpr ⟨bundled, none⟩
          exact ⟨later, Or.inr ⟨by simp, id, world, ⟨parsed, rfl⟩, finished⟩⟩
    | entry =>
      simp only [Action.bind_eq_ok, Action.ofExcept_eq_ok, Outcome.mapError_eq_ok, Packet.IsBundled, kind]
      constructor
      · intro run
        obtain ⟨later, entry, _, ⟨parsed, rfl⟩, finished⟩ := run
        obtain ⟨bundled, few⟩ := (ih _).mp ⟨later, finished⟩
        exact ⟨⟨⟨entry, parsed⟩, bundled⟩, by simpa [activeCount] using few⟩
      · rintro ⟨⟨⟨entry, parsed⟩, bundled⟩, few⟩
        obtain ⟨later, finished⟩ := (ih world).mpr ⟨bundled, by simpa [activeCount] using few⟩
        exact ⟨later, entry, world, ⟨parsed, rfl⟩, finished⟩
    | unknown =>
      simp only [Action.bind_eq_ok, Action.log_eq_ok, Packet.IsBundled, kind, true_and]
      constructor
      · rintro ⟨later, _, _, rfl, finished⟩
        obtain ⟨bundled, few⟩ := (ih _).mp ⟨later, finished⟩
        exact ⟨bundled, by simpa [activeCount] using few⟩
      · rintro ⟨bundled, few⟩
        obtain ⟨later, finished⟩ := (ih _).mpr ⟨bundled, by simpa [activeCount] using few⟩
        exact ⟨later, (), _, rfl, finished⟩
    | dataKey => simp [Packet.IsBundled, kind]
    | salt => simp [Packet.IsBundled, kind]
    | bundle => simp [Packet.IsBundled, kind]

/-- The active key is the one on record, or the lowest if none is. -/
def Follows (view : Snapshot) : Option KeyId → Prop
  | some id => view.activeId = id
  | none => view.active = 0

theorem viewOf_found {keys : KeySet} {id : KeyId} {position : Nat} (found : keys.find? id = some position) :
    viewOf keys (some id) = pure ⟨keys, position, KeySet.lt_length_of_find? found⟩ := by
  have bound := KeySet.lt_length_of_find? found
  unfold viewOf
  split
  next empty => simp [KeySet.length, empty] at bound
  next stored =>
    dsimp only
    split
    next other again =>
      rw [found] at again
      cases again
      rfl
    next absent =>
      rw [found] at absent
      cases absent

theorem viewOf_absent {keys : KeySet} {id : KeyId} (absent : keys.find? id = none) :
    ∃ cause, viewOf keys (some id) = Action.fail cause := by
  unfold viewOf
  split
  · exact ⟨_, rfl⟩
  · dsimp only
    split
    next position found =>
      rw [absent] at found
      cases found
    · exact ⟨_, rfl⟩

theorem viewOf_eq_ok_iff {keys : KeySet} {recorded : Option KeyId} {view : Snapshot}
    (ascending : KeySet.Ascending keys.entries) (world : World) :
    (∃ later, viewOf keys recorded world = .ok view later) ↔ view.keys = keys ∧ Follows view recorded := by
  cases recorded with
  | some id =>
    cases found : keys.find? id with
    | some position =>
      rw [viewOf_found found]
      simp only [Action.pure_eq_ok, exists_and_left, exists_eq', and_true]
      constructor
      · rintro rfl
        exact ⟨rfl, Snapshot.activeId_of_find? found⟩
      · rintro ⟨rfl, rfl⟩
        rw [Snapshot.find?_activeId ascending] at found
        exact Snapshot.ext_of rfl (Option.some.inj found).symm
    | none =>
      obtain ⟨cause, failed⟩ := viewOf_absent found
      rw [failed]
      simp only [Action.fail_eq_ok, exists_false, false_iff, not_and]
      rintro rfl rfl
      rw [Snapshot.find?_activeId ascending] at found
      cases found
  | none =>
    obtain ⟨stored⟩ := keys
    cases stored with
    | nil =>
      simp only [viewOf, Action.fail_eq_ok, exists_false, false_iff, not_and]
      intro same
      exact absurd (congrArg KeySet.entries same) view.entries_ne_nil
    | cons lowest others =>
      simp only [viewOf, Follows, Action.bind_eq_ok, Action.log_eq_ok, Action.pure_eq_ok]
      constructor
      · intro finished
        obtain ⟨_, _, _, _, rfl, rfl⟩ := finished
        exact ⟨rfl, rfl⟩
      · rintro ⟨same, lowestActive⟩
        exact ⟨_, (), _, rfl, Snapshot.ext_of same.symm lowestActive.symm, rfl⟩

/-- The bundle that some packets stand for. -/
structure Describes (packets : List Packet) (bundle : Bundle) : Prop where
  bundled : ∀ packet ∈ packets, packet.IsBundled
  single : activeCount packets ≤ 1
  perm : bundle.view.keys.entries.Perm (entries packets)
  ascending : KeySet.Ascending bundle.view.keys.entries
  active : Follows bundle.view (recordedActive packets)
  extras : bundle.extras = unknownAmong packets

theorem decode_eq_ok_iff {plain : Bytes} {bundle : Bundle} (world : World) :
    (∃ later, decode plain world = .ok bundle later) ↔
      ∃ packets, Packet.parseAll 0 plain = .ok packets ∧ Describes packets bundle := by
  unfold decode
  simp only [Action.bind_eq_ok, Action.ofExcept_eq_ok, Outcome.mapError_eq_ok, Action.pure_eq_ok]
  constructor
  · intro finished
    obtain ⟨_, packets, _, ⟨parsed, rfl⟩, _, _, inspected, keys, _, ⟨ordered, rfl⟩, view, _, viewed,
      rfl, rfl⟩ := finished
    obtain ⟨bundled, single⟩ := (inspect_eq_ok_iff world).mp ⟨_, inspected⟩
    obtain ⟨perm, ascending⟩ := KeySet.ofEntries_eq_ok_iff.mp ordered
    obtain ⟨rfl, active⟩ := (viewOf_eq_ok_iff ascending _).mp ⟨_, viewed⟩
    exact ⟨packets, parsed, bundled, by simpa using single, perm, ascending, active, rfl⟩
  · intro given
    obtain ⟨packets, parsed, bundled, single, perm, ascending, active, extras⟩ := given
    have few : activeCount packets + false.toNat ≤ 1 := single
    obtain ⟨between, inspected⟩ := (inspect_eq_ok_iff world).mpr ⟨bundled, few⟩
    obtain ⟨later, viewed⟩ := (viewOf_eq_ok_iff ascending between).mpr ⟨rfl, active⟩
    have ordered := KeySet.ofEntries_eq_ok_iff.mpr ⟨perm, ascending⟩
    exact ⟨later, packets, world, ⟨parsed, rfl⟩, (), between, inspected, _, _, ⟨ordered, rfl⟩, _, _, viewed,
      by rw [← extras], rfl⟩

theorem entries_append (front back : List Packet) : entries (front ++ back) = entries front ++ entries back :=
  List.filterMap_append

theorem entries_cons {packet : Packet} {entry : Entry} (role : packet.type.role = .entry)
    (parsed : Entry.parse packet.content = .ok entry) (rest : List Packet) :
    entries (packet :: rest) = entry :: entries rest := by
  rw [entries, List.filterMap_cons, if_pos role, parsed]
  rfl

theorem entries_cons_other {packet : Packet} (role : packet.type.role ≠ .entry) (rest : List Packet) :
    entries (packet :: rest) = entries rest := by
  rw [entries, List.filterMap_cons, if_neg role]
  rfl

theorem mem_unknownAmong {packets : List Packet} {packet : Packet} :
    packet ∈ unknownAmong packets ↔ packet ∈ packets ∧ packet.type.role = .unknown := by
  simp [unknownAmong]

/-- The entry packets of a bundle are its entries, written out. -/
theorem filter_entry {packets : List Packet} (bundled : ∀ packet ∈ packets, packet.IsBundled) :
    packets.filter (·.type = .entry) = (entries packets).map Entry.packet := by
  induction packets with
  | nil => rfl
  | cons packet rest ih =>
    have others := ih fun other member => bundled other (List.mem_cons_of_mem _ member)
    have here := bundled packet List.mem_cons_self
    by_cases isEntry : packet.type = .entry
    · have role : packet.type.role = .entry := (PacketType.role_eq_iff rfl).mpr isEntry
      simp only [Packet.IsBundled, role] at here
      obtain ⟨entry, parsed⟩ := here
      have written : packet = entry.packet := by
        obtain ⟨content, _⟩ := Entry.eq_content_of_parse parsed
        cases packet
        simp_all [Entry.packet]
      rw [List.filter_cons_of_pos (by simpa using isEntry), entries_cons role parsed, others, List.map_cons, ← written]
    · have role : packet.type.role ≠ .entry := fun same => isEntry ((PacketType.role_eq_iff rfl).mp same)
      rw [List.filter_cons_of_neg (by simpa using isEntry), entries_cons_other role, others]

theorem nonzero_of_mem_entries {packets : List Packet} {entry : Entry} (member : entry ∈ entries packets) :
    entry.id ≠ 0 := by
  obtain ⟨packet, _, here⟩ := List.mem_filterMap.mp member
  split at here
  · cases parsed : Entry.parse packet.content with
    | ok found =>
      rw [parsed] at here
      cases here
      exact (Entry.eq_content_of_parse parsed).2
    | error cause =>
      rw [parsed] at here
      cases here
  · cases here

/-- The packets that a bundle is written as. -/
def packets (bundle : Bundle) : List Packet :=
  ActiveRecord.packet (some bundle.view.activeId) ::
    (bundle.view.keys.entries.map Entry.packet ++ bundle.extras)

theorem encodeAll_parts (bundle : Bundle) :
    Part.encodeAll bundle.parts = Part.encodeAll (bundle.packets.map .packet) := by
  apply Part.encodeAll_congr
  simp only [parts, packets, List.map_cons, List.map_append, List.map_map]
  rfl

section Written

variable {list : List Entry} {extras : List Packet}

theorem entries_map_packet (nonzero : ∀ entry ∈ list, entry.id ≠ 0) : entries (list.map Entry.packet) = list := by
  induction list with
  | nil => rfl
  | cons entry rest ih =>
    have parsed := Entry.parse_content (nonzero entry List.mem_cons_self)
    have others := ih fun other member => nonzero other (List.mem_cons_of_mem _ member)
    rw [List.map_cons, entries_cons entry.role_packet parsed, others]

theorem entries_unknown (unknown : ∀ packet ∈ extras, packet.type.role = .unknown) : entries extras = [] := by
  refine List.filterMap_eq_nil_iff.mpr ?_
  intro packet member
  simp [unknown packet member]

theorem unknownAmong_map_packet : unknownAmong (list.map Entry.packet) = [] := by
  refine List.filter_eq_nil_iff.mpr ?_
  intro packet member
  obtain ⟨entry, _, rfl⟩ := List.mem_map.mp member
  simp

theorem activeCount_eq_zero {packets : List Packet} (other : ∀ packet ∈ packets, packet.type.role ≠ .active) :
    activeCount packets = 0 :=
  List.countP_eq_zero.mpr fun packet member => by simpa using other packet member

end Written

/-- The active record that a bundle is written with can be read. -/
theorem activeId_nonzero {bundle : Bundle} (nonzero : ∀ entry ∈ bundle.view.keys.entries, entry.id ≠ 0) :
    some bundle.view.activeId ≠ some 0 := by
  obtain ⟨entry, member, same⟩ := List.mem_map.mp bundle.view.activeId_mem
  simpa [← same] using nonzero entry member

theorem recordedActive_packets {bundle : Bundle} (nonzero : ∀ entry ∈ bundle.view.keys.entries, entry.id ≠ 0) :
    recordedActive bundle.packets = some bundle.view.activeId := by
  have parsed := ActiveRecord.parse_content (activeId_nonzero nonzero)
  have content : (ActiveRecord.packet (some bundle.view.activeId)).content =
    ActiveRecord.content (some bundle.view.activeId) := rfl
  simp [recordedActive, packets, content, parsed]

/-- A bundle in order is described by the packets that it is written as. -/
theorem describes_packets {bundle : Bundle} (ascending : KeySet.Ascending bundle.view.keys.entries)
    (nonzero : ∀ entry ∈ bundle.view.keys.entries, entry.id ≠ 0)
    (unknown : ∀ packet ∈ bundle.extras, packet.type.role = .unknown) :
    Describes bundle.packets bundle := by
  have parsed := ActiveRecord.parse_content (activeId_nonzero nonzero)
  have inactive : ∀ packet ∈ bundle.view.keys.entries.map Entry.packet ++ bundle.extras,
      packet.type.role ≠ .active := by
    intro packet member
    rcases List.mem_append.mp member with stored | extra
    · obtain ⟨entry, _, rfl⟩ := List.mem_map.mp stored
      simp
    · simp [unknown packet extra]
  refine ⟨?_, ?_, ?_, ascending, ?_, ?_⟩
  · intro packet member
    rcases List.mem_cons.mp member with rfl | member
    · exact ⟨_, parsed⟩
    rcases List.mem_append.mp member with stored | extra
    · obtain ⟨entry, inside, rfl⟩ := List.mem_map.mp stored
      exact ⟨entry, Entry.parse_content (nonzero entry inside)⟩
    · simp [Packet.IsBundled, unknown packet extra]
  · have none := activeCount_eq_zero inactive
    simp only [activeCount] at none
    simp [activeCount, packets, none]
  · have skipped : entries bundle.packets =
        entries (bundle.view.keys.entries.map Entry.packet ++ bundle.extras) :=
      entries_cons_other (by simp) _
    rw [skipped, entries_append, entries_map_packet nonzero, entries_unknown unknown, List.append_nil]
  · rw [recordedActive_packets nonzero]
    rfl
  · have all : unknownAmong bundle.extras = bundle.extras := by
      simpa [unknownAmong] using unknown
    have skipped : unknownAmong bundle.packets =
        unknownAmong (bundle.view.keys.entries.map Entry.packet) ++ unknownAmong bundle.extras := by
      simp [unknownAmong, packets]
    rw [skipped, unknownAmong_map_packet, all, List.nil_append]

end Bundle

end Keyring
