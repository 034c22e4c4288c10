import Keyring.Proofs.Layers

namespace Keyring

/-- A sink that takes everything has received everything. -/
theorem Sink.received_of_take {sink : Sink} {data : Bytes} (accepted : (sink.take data).2 = .ok ()) :
    (sink.take data).1 = data := by
  unfold take at accepted ⊢
  cases room : sink.room with
  | none => rfl
  | some count =>
    rw [room] at accepted
    by_cases short : count < data.length
    · simp [short] at accepted
    · exact List.take_of_length_le (by omega)

theorem Sink.take_prefix (sink : Sink) (data : Bytes) : (sink.take data).1 <+: data := by
  rw [take]
  cases sink.room with
  | none => exact List.prefix_rfl
  | some room => exact List.take_prefix room data

namespace Ring

/-- A new ring has one key, a data key off the supply and the same data key sealed under the next bytes. -/
theorem new_eq_ok_iff {config : Config} {ring : Ring} (world : World) :
    (∃ later, new config world = .ok ring later) ↔
      config.initialKey ≠ [] ∧ world.supply.Has dataKeyLength ∧
        (world.supply.after dataKeyLength).Has Sealing.nonceLength ∧
        ∃ wrappedKey,
          Sealing.sealWith config.accessKey
            (world.supply.segment (world.supply.drawn + dataKeyLength) Sealing.nonceLength)
            (world.supply.segment world.supply.drawn dataKeyLength) [] = .ok wrappedKey ∧
          ring =
            { header := .current, salt := config.salt.getD [], wrappedKey := wrappedKey,
              dataKey := ⟨world.supply.segment world.supply.drawn dataKeyLength⟩,
              view := .single config.initialKey, maxId := 1, extras := [], bundleExtras := [] } := by
  unfold new
  simp only [Action.bind_eq_ok, Action.ite_eq_ok, Action.fail_eq_ok, Action.log_eq_ok, Action.pure_eq_ok,
    Action.mapCause_eq_ok, checkAccessKey_eq_ok, List.isEmpty_iff, false_and, exists_false, and_false, false_or]
  constructor
  · intro finished
    obtain ⟨_, _, _, ⟨_, rfl⟩, nonempty, ⟨dataKey, wrappedKey⟩, _, made, _, _, _, rfl, rfl⟩ := finished
    obtain ⟨enough, more, rfl, wrapped⟩ := (Sealing.newSealedKey_eq_ok_iff world).mp ⟨_, made⟩
    exact ⟨nonempty, enough, more, wrappedKey, wrapped, rfl⟩
  · intro given
    obtain ⟨nonempty, enough, more, wrappedKey, wrapped, rfl⟩ := given
    have fits := (Sealing.sealWith_eq_ok_iff.mp wrapped).1
    obtain ⟨_, made⟩ := (Sealing.newSealedKey_eq_ok_iff world).mpr ⟨enough, more, rfl, wrapped⟩
    exact ⟨_, (), world, ⟨fits, rfl⟩, nonempty, (_, wrappedKey), _, made, (), _, rfl, rfl, rfl⟩

variable {ring next : Ring}

theorem add_eq_ok_iff {key : Bytes} {id : KeyId} (world : World) :
    (∃ later, ring.add key world = .ok (id, next) later) ↔
      key ≠ [] ∧ ring.maxId ≠ maxKeyId ∧ id = ring.maxId + 1 ∧
        next = { ring with view := ring.view.insert ⟨ring.maxId + 1, key⟩, maxId := ring.maxId + 1 } := by
  unfold add
  simp only [Action.bind_eq_ok, Action.ite_eq_ok, Action.throw_eq_ok, Action.log_eq_ok, Action.pure_eq_ok,
    List.isEmpty_iff, false_and, exists_false, and_false, false_or]
  constructor
  · intro finished
    obtain ⟨_, nonempty, room, _, _, rfl, same, rfl⟩ := finished
    cases same
    exact ⟨nonempty, room, rfl, rfl⟩
  · rintro ⟨nonempty, room, rfl, rfl⟩
    exact ⟨_, nonempty, room, (), _, rfl, rfl, rfl⟩

/-- A random key is the next `length` bytes of the supply. -/
theorem addRandom_eq_ok_iff {length : Nat} {id : KeyId} (world : World) :
    (∃ later, ring.addRandom length world = .ok (id, next) later) ↔
      world.supply.Has length ∧
        ∃ later, ring.add (world.supply.segment world.supply.drawn length) world = .ok (id, next) later := by
  unfold addRandom randomKey
  simp only [add_eq_ok_iff, Action.bind_eq_ok, Action.ite_eq_ok, Action.throw_eq_ok, false_and, exists_false,
    and_false, false_or]
  constructor
  · intro finished
    obtain ⟨later, key, between, ⟨_, drawn⟩, added⟩ := finished
    obtain ⟨enough, rfl, _⟩ := Action.draw_eq_ok.mp drawn
    exact ⟨enough, (add_eq_ok_iff between).mp ⟨later, added⟩⟩
  · rintro ⟨enough, added⟩
    have positive : length ≠ 0 := by
      rintro rfl
      exact added.1 rfl
    obtain ⟨later, finished⟩ := (add_eq_ok_iff _).mpr added
    exact ⟨later, _, _, ⟨positive, Action.draw_of_has enough .storedKey⟩, finished⟩

theorem activate_eq_ok_iff {id : KeyId} (world : World) :
    (∃ later, ring.activate id world = .ok next later) ↔
      ∃ view, ring.view.activate id = .ok view ∧ next = { ring with view := view } := by
  unfold activate
  simp only [Action.bind_eq_ok, Action.orFault_eq_ok, Action.log_eq_ok, Action.pure_eq_ok]
  constructor
  · intro finished
    obtain ⟨_, view, _, ⟨activated, rfl⟩, _, _, rfl, rfl, rfl⟩ := finished
    exact ⟨view, activated, rfl⟩
  · rintro ⟨view, activated, rfl⟩
    exact ⟨_, view, world, ⟨activated, rfl⟩, (), _, rfl, rfl, rfl⟩

theorem rekey_eq_ok_iff {accessKey : Bytes} {salt : Option Bytes} (world : World) :
    (∃ later, ring.rekey accessKey salt world = .ok next later) ↔
      world.supply.Has Sealing.nonceLength ∧ ∃ wrappedKey,
        Sealing.sealWith accessKey (world.supply.segment world.supply.drawn Sealing.nonceLength)
          ring.dataKey.bytes [] = .ok wrappedKey ∧
        next = { ring with wrappedKey := wrappedKey, salt := salt.getD ring.salt } := by
  unfold rekey
  simp only [Action.bind_eq_ok, Action.mapCause_eq_ok, checkAccessKey_eq_ok, Action.log_eq_ok, Action.pure_eq_ok]
  constructor
  · intro finished
    obtain ⟨_, _, _, ⟨_, rfl⟩, wrappedKey, _, packed, _, _, rfl, rfl, rfl⟩ := finished
    obtain ⟨enough, wrapped⟩ := (Sealing.sealFresh_eq_ok_iff world).mp ⟨_, packed⟩
    exact ⟨enough, wrappedKey, wrapped, rfl⟩
  · rintro ⟨enough, wrappedKey, wrapped, rfl⟩
    have fits := (Sealing.sealWith_eq_ok_iff.mp wrapped).1
    obtain ⟨_, packed⟩ := (Sealing.sealFresh_eq_ok_iff world).mpr ⟨enough, wrapped⟩
    exact ⟨_, (), world, ⟨fits, rfl⟩, wrappedKey, _, packed, (), _, rfl, rfl, rfl⟩

/-- The container that a ring is written as around its sealed bundle. -/
def container (ring : Ring) (sealedBundle : Bytes) : Container :=
  ⟨ring.header, ⟨.salt, ring.salt⟩ :: ⟨.dataKey, ring.wrappedKey⟩ :: ⟨.bundle, sealedBundle⟩ :: ring.extras⟩

theorem encode_eq_ok_iff {data : Bytes} (world : World) :
    (∃ later, ring.encode world = .ok data later) ↔
      (∀ packet ∈ ring.bundle.packets, packet.Fits) ∧ world.supply.Has Sealing.nonceLength ∧
        ∃ sealedBundle,
          Sealing.sealWith ring.dataKey.bytes (world.supply.segment world.supply.drawn Sealing.nonceLength)
            (Packet.joined ring.bundle.packets) [] = .ok sealedBundle ∧
          (∀ packet ∈ (ring.container sealedBundle).packets, packet.Fits) ∧
          (ring.container sealedBundle).bytes = data := by
  have parts : ∀ sealedBundle, ring.parts sealedBundle =
      .header (ring.container sealedBundle).header :: (ring.container sealedBundle).packets.map .packet :=
    fun _ => rfl
  unfold encode sealBundle
  simp only [Action.bind_eq_ok, Action.orFault_eq_ok, Action.mapCause_eq_ok, Bundle.encodeAll_parts,
    Part.encodeAll_packets, parts, Part.encodeAll_container]
  constructor
  · intro finished
    obtain ⟨_, sealedBundle, _, ⟨_, _, ⟨⟨innerFits, rfl⟩, rfl⟩, packed⟩, ⟨outerFits, rfl⟩, rfl⟩ := finished
    obtain ⟨enough, bundleSealed⟩ := (Sealing.sealFresh_eq_ok_iff world).mp ⟨_, packed⟩
    exact ⟨innerFits, enough, sealedBundle, bundleSealed, outerFits, rfl⟩
  · intro given
    obtain ⟨innerFits, enough, sealedBundle, bundleSealed, outerFits, rfl⟩ := given
    obtain ⟨later, packed⟩ := (Sealing.sealFresh_eq_ok_iff world).mpr ⟨enough, bundleSealed⟩
    exact ⟨later, sealedBundle, later, ⟨_, world, ⟨⟨innerFits, rfl⟩, rfl⟩, packed⟩, ⟨outerFits, rfl⟩, rfl⟩

theorem write_eq_ok_iff {sink : Sink} {delivery : Delivery} (world : World) :
    (∃ later, ring.write sink world = .ok delivery later) ↔
      ∃ data, (∃ later, ring.encode world = .ok data later) ∧
        delivery = ⟨(sink.take data).1, (sink.take data).2.map fun _ => data.length⟩ := by
  unfold write
  simp only [Action.bind_eq_ok]
  constructor
  · intro finished
    obtain ⟨_, data, _, encoded, sent⟩ := finished
    refine ⟨data, ⟨_, encoded⟩, ?_⟩
    generalize sink.take data = taken at sent ⊢
    obtain ⟨received, outcome⟩ := taken
    cases outcome with
    | ok nothing =>
      simp only [Action.bind_eq_ok, Action.log_eq_ok, Action.pure_eq_ok] at sent
      obtain ⟨_, _, _, rfl, _⟩ := sent
      rfl
    | error failure => exact (Action.pure_eq_ok.mp sent).1.symm
  · intro given
    obtain ⟨data, ⟨between, encoded⟩, rfl⟩ := given
    generalize taking : sink.take data = taken
    obtain ⟨received, outcome⟩ := taken
    cases outcome with
    | ok nothing =>
      let event : Event :=
        .ofRing .debug "wrote keyring" [("bytes", toString data.length), ("keys", toString ring.length)]
      refine ⟨{ between with trace := between.trace.push (.event event) }, data, between, encoded, ?_⟩
      rw [taking]
      simp only [Action.bind_eq_ok, Action.log_eq_ok, Action.pure_eq_ok]
      exact ⟨(), _, rfl, rfl, rfl⟩
    | error failure =>
      refine ⟨between, data, between, encoded, ?_⟩
      rw [taking]
      exact Action.pure_eq_ok.mpr ⟨rfl, rfl⟩

/-- What a sink took in full are the bytes of the ring's container. -/
theorem encode_of_write {sink : Sink} {data : Bytes} {count : Nat} {world later : World}
    (written : ring.write sink world = .ok ⟨data, .ok count⟩ later) :
    ∃ encoded, ring.encode world = .ok data encoded := by
  obtain ⟨bytes, encoded, same⟩ := (write_eq_ok_iff world).mp ⟨_, written⟩
  obtain ⟨received, outcome⟩ := Delivery.mk.inj same
  obtain ⟨_, accepted, _⟩ := Outcome.map_eq_ok.mp outcome.symm
  rw [received, Sink.received_of_take accepted]
  exact encoded

end Ring

end Keyring
