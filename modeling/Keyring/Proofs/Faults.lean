import Keyring.Proofs.Frame
import Keyring.Proofs.Resaving

namespace Keyring

namespace Action

variable {σ ε ε' α β : Type} {holds : σ → Prop} {allowed : Fault → Prop}

/-- What holds is kept, and if the action ends in a fault, it is one of those that are allowed. -/
structure Orderly (holds : σ → Prop) (allowed : Fault → Prop) (action : ActionOn σ ε α) : Prop where
  keeps : Keeps holds action
  faults : ∀ {before fault after}, holds before → action before = .error (.fault fault) after → allowed fault

section Rules

theorem Orderly.pure (value : α) : Orderly holds allowed (Pure.pure value : ActionOn σ ε α) where
  keeps := .pure value
  faults _ failed := by simp at failed

theorem Orderly.get : Orderly holds allowed (get : ActionOn σ ε σ) where
  keeps := .get
  faults _ failed := by cases failed

theorem Orderly.throw {failure : Failure ε} (excused : ∀ fault, failure = .fault fault → allowed fault) :
    Orderly holds allowed (throw failure : ActionOn σ ε α) where
  keeps := .throw failure
  faults _ failed := excused _ (throw_eq_error.mp failed).1

theorem Orderly.fail (cause : ε) : Orderly holds allowed (fail cause : ActionOn σ ε α) :=
  .throw fun _ same => by cases same

theorem Orderly.ofExcept (outcome : Except ε α) : Orderly holds allowed (ofExcept outcome : ActionOn σ ε α) := by
  cases outcome with
  | ok value => exact .pure value
  | error cause => exact .fail cause

theorem Orderly.orFault {outcome : Except Fault α} (excused : ∀ fault, outcome = .error fault → allowed fault) :
    Orderly holds allowed (orFault outcome : ActionOn σ ε α) := by
  cases outcome with
  | ok value => exact .pure value
  | error fault =>
    refine .throw fun other same => ?_
    cases same
    exact excused fault rfl

theorem Orderly.bind {action : ActionOn σ ε α} {next : α → ActionOn σ ε β} (first : Orderly holds allowed action)
    (second : ∀ value, Orderly holds allowed (next value)) : Orderly holds allowed (action >>= next) where
  keeps := .bind first.keeps fun value => (second value).keeps
  faults given failed := by
    rcases bind_eq_error.mp failed with early | ⟨value, between, done, late⟩
    · exact first.faults given early
    · exact (second value).faults (first.keeps.of_ok given done) late

theorem Orderly.ite {p : Prop} [Decidable p] {yes no : ActionOn σ ε α} (first : p → Orderly holds allowed yes)
    (second : ¬ p → Orderly holds allowed no) : Orderly holds allowed (if p then yes else no) := by
  by_cases taken : p
  · rw [if_pos taken]
    exact first taken
  · rw [if_neg taken]
    exact second taken

/-- A guard that fails for a cause is no fault. -/
theorem Orderly.guard {p : Prop} [Decidable p] {cause : ε} {rest : PUnit → ActionOn σ ε α}
    (orderly : ∀ passed, Orderly holds allowed (rest passed)) :
    Orderly holds allowed (if p then MonadExcept.throw (.error cause) >>= rest else rest ()) :=
  .ite (fun _ => .bind (.fail cause) orderly) fun _ => orderly ()

theorem Orderly.mapCause {f : ε → ε'} {action : ActionOn σ ε α} (orderly : Orderly holds allowed action) :
    Orderly holds allowed (mapCause f action) where
  keeps := .mapCause orderly.keeps
  faults given failed := orderly.faults given (mapCause_eq_fault.mp failed)

section Failing

variable {before after : σ} {failure : Failure ε} (given : holds before)
include given

theorem Orderly.of_error {action : ActionOn σ ε α} (orderly : Orderly holds allowed action)
    (failed : action before = .error failure after) :
    holds after ∧ ∀ fault, failure = .fault fault → allowed fault := by
  refine ⟨orderly.keeps.of_error given failed, ?_⟩
  rintro fault rfl
  exact orderly.faults given failed

/-- An action that fails leaves what holds, or hands it on to what comes next, and that fails. -/
theorem Orderly.bind_error {action : ActionOn σ ε α} {next : α → ActionOn σ ε β}
    (orderly : Orderly holds allowed action)
    (failed : (action >>= next) before = .error failure after) :
    (holds after ∧ ∀ fault, failure = .fault fault → allowed fault) ∨
      ∃ value between, action before = .ok value between ∧ holds between ∧
        next value between = .error failure after := by
  rcases bind_eq_error.mp failed with early | ⟨value, between, done, late⟩
  · exact .inl (orderly.of_error given early)
  · exact .inr ⟨value, between, done, orderly.keeps.of_ok given done, late⟩

/-- An action that keeps what holds fails there, or hands it on to what comes next. -/
theorem Orderly.bind_cases {action : ActionOn σ ε α} (orderly : Orderly holds allowed action)
    (next : α → ActionOn σ ε β) :
    (∃ failure after, (action >>= next) before = .error failure after ∧ holds after) ∨
      ∃ value between, action before = .ok value between ∧ holds between ∧
        (action >>= next) before = next value between := by
  cases ran : action before with
  | ok value between => exact .inr ⟨value, between, rfl, orderly.keeps.of_ok given ran, bind_of_ok ran next⟩
  | error failure after => exact .inl ⟨failure, after, bind_of_error ran next, orderly.keeps.of_error given ran⟩

theorem Orderly.guard_error {p : Prop} [Decidable p] {cause : ε} {rest : PUnit → ActionOn σ ε α}
    (failed : (if p then MonadExcept.throw (.error cause) >>= rest else rest ()) before = .error failure after) :
    (holds after ∧ ∀ fault, failure = .fault fault → allowed fault) ∨ ¬ p ∧ rest () before = .error failure after := by
  rcases ite_eq_error.mp failed with ⟨-, stopped⟩ | ⟨passed, late⟩
  · have thrown : Orderly holds allowed (Action.fail cause : ActionOn σ ε PUnit) := .fail cause
    rcases thrown.bind_error given stopped with early | ⟨_, _, done, -⟩
    · exact .inl early
    · cases done
  · exact .inr ⟨passed, late⟩

end Failing

end Rules

end Action

open Keyring.Action

section Limit

variable {ε : Type} {limit : Option Nat} {allowed : Fault → Prop}

/-- A world whose supply can run out after so many bytes, if at all. -/
def World.Limited (limit : Option Nat) (world : World) : Prop :=
  world.supply.limit = limit

theorem World.orderly_record (mark : Mark) : Orderly (World.Limited limit) allowed (record mark : Action ε Unit) where
  keeps _ given := given
  faults _ failed := by cases failed

theorem World.orderly_log (event : Event) : Orderly (World.Limited limit) allowed (log event : Action ε Unit) :=
  World.orderly_record (.event event)

theorem Supply.take_eq_error {supply : Supply} {count : Nat} {fault : Fault}
    (refused : supply.take count = .error fault) :
    fault = .lengthOverflow ∧ lengthLimit ≤ count ∨ fault = .randomness ∧ supply.limit ≠ none := by
  unfold take at refused
  split at refused
  case isTrue long =>
    cases refused
    exact .inl ⟨rfl, long⟩
  case isFalse =>
    split at refused
    case isTrue short =>
      cases refused
      refine .inr ⟨rfl, fun none => ?_⟩
      simp [none] at short
    case isFalse => cases refused

/-- Drawing goes wrong where the supply has run out, or at a length that nothing in memory has. -/
theorem World.orderly_draw (purpose : Purpose) {count : Nat} (short : limit ≠ none → allowed .randomness)
    (long : lengthLimit ≤ count → allowed .lengthOverflow) :
    Orderly (World.Limited limit) allowed (draw purpose count : Action ε Bytes) where
  keeps := by
    intro before given
    obtain ⟨drawn, -, left⟩ := Spends.draw (ε := ε) purpose count before
    unfold World.Limited
    rw [left]
    exact given
  faults := by
    intro before fault after given failed
    cases taken : before.supply.take count with
    | ok drawn =>
      obtain ⟨bytes, supply⟩ := drawn
      rw [draw_of_has (Supply.take_eq_ok_iff.mp taken).1] at failed
      cases failed
    | error other =>
      rw [draw_of_refused taken] at failed
      cases failed
      rcases Supply.take_eq_error taken with ⟨rfl, above⟩ | ⟨rfl, limited⟩
      · exact long above
      · exact short (given ▸ limited)

section Reading

theorem Bundle.orderly_inspect (activeSeen : Bool) (packets : List Packet) :
    Orderly (World.Limited limit) allowed (inspect activeSeen packets) := by
  induction packets generalizing activeSeen with
  | nil => exact .pure ()
  | cons packet rest ih =>
    unfold inspect
    split
    · exact Orderly.guard fun _ => .bind (.ofExcept _) fun _ => ih true
    · exact .bind (.ofExcept _) fun _ => ih activeSeen
    · exact .bind (World.orderly_log _) fun _ => ih activeSeen
    all_goals exact .fail _

theorem Bundle.orderly_viewOf (keys : KeySet) (recorded : Option KeyId) :
    Orderly (World.Limited limit) allowed (viewOf keys recorded) := by
  unfold viewOf
  split
  · exact .fail _
  · split
    · split
      · exact .pure _
      · exact .fail _
    · exact .bind (World.orderly_log _) fun _ => .pure _

theorem Bundle.orderly_decode (plain : Bytes) : Orderly (World.Limited limit) allowed (decode plain) := by
  unfold decode
  refine .bind (.ofExcept _) fun packets => .bind (orderly_inspect false packets) fun _ => ?_
  exact .bind (.ofExcept _) fun keys => .bind (orderly_viewOf keys _) fun _ => .pure _

namespace Ring

theorem orderly_inspect (seen : List Role) (packets : List Packet) :
    Orderly (World.Limited limit) allowed (inspect seen packets) := by
  induction packets generalizing seen with
  | nil => exact .pure ()
  | cons packet rest ih =>
    unfold inspect
    split
    · exact .bind (World.orderly_log _) fun _ => ih seen
    · exact .fail _
    · exact .fail _
    · exact .ite (fun _ => .fail _) fun _ => ih _

theorem orderly_parseSupported (data : Bytes) : Orderly (World.Limited limit) allowed (parseSupported data) := by
  unfold parseSupported
  exact .bind (.ofExcept _) fun container => Orderly.guard fun _ => Orderly.guard fun _ => .pure _

theorem orderly_required (type : PacketType) (packets : List Packet) :
    Orderly (World.Limited limit) allowed (required type packets) := by
  unfold required
  split
  · exact .pure _
  · exact .fail _

theorem orderly_checkAccessKey (key : Bytes) : Orderly (World.Limited limit) allowed (checkAccessKey key) :=
  .ite (fun _ => .pure ()) fun _ => .fail _

theorem orderly_ask (credential : Credential) (salt : Bytes) :
    Orderly (World.Limited limit) allowed (ask credential salt) :=
  .bind (World.orderly_record _) fun _ => .bind (orderly_checkAccessKey _) fun _ => .pure _

/-- Whatever bytes are read, they are no fault of anyone. -/
theorem orderly_read (source : Source) (credential : Credential) :
    Orderly (World.Limited limit) allowed (read source credential) := by
  unfold read
  refine .bind (.ofExcept _) fun data => .bind (orderly_parseSupported data) fun container => ?_
  refine .bind (orderly_inspect [] container.packets) fun _ => ?_
  refine .bind (orderly_required .dataKey container.packets) fun wrappedKey => ?_
  refine .bind (orderly_required .bundle container.packets) fun sealedBundle => ?_
  refine .bind (orderly_ask credential _) fun accessKey => .bind (.ofExcept _) fun dataKey => ?_
  refine Orderly.guard fun _ => .bind (.ofExcept _) fun plain => ?_
  exact .bind (Bundle.orderly_decode plain) fun bundle => .bind (World.orderly_log _) fun _ => .pure _

end Ring

end Reading

section Drawing

variable (short : limit ≠ none → allowed .randomness)
include short

theorem Sealing.orderly_sealFresh (key plain aad : Bytes) :
    Orderly (World.Limited limit) allowed (sealFresh key plain aad) := by
  have enough : lengthLimit ≤ nonceLength → allowed .lengthOverflow := fun long => absurd long (by decide)
  unfold sealFresh
  exact Orderly.guard fun _ => .bind (World.orderly_draw .nonce short enough) fun _ => .ofExcept _

theorem Sealing.orderly_newSealedKey (accessKey : Bytes) :
    Orderly (World.Limited limit) allowed (newSealedKey accessKey Ring.dataKeyLength) := by
  have enough : lengthLimit ≤ Ring.dataKeyLength → allowed .lengthOverflow := fun long => absurd long (by decide)
  unfold newSealedKey
  refine Orderly.guard fun _ => .bind (World.orderly_draw .dataKey short enough) fun key => ?_
  exact .bind (orderly_sealFresh short accessKey key []) fun _ => .pure _

theorem Derivation.orderly_newAccessKey (passphrase : Bytes) :
    Orderly (World.Limited limit) allowed (newAccessKey passphrase : Action ε (Bytes × Bytes)) := by
  have enough : lengthLimit ≤ saltLength → allowed .lengthOverflow := fun long => absurd long (by decide)
  exact .bind (World.orderly_draw .salt short enough) fun _ => .pure _

namespace Ring

theorem orderly_new (config : Config) : Orderly (World.Limited limit) allowed (new config) := by
  unfold new
  refine .bind (orderly_checkAccessKey config.accessKey) fun _ => Orderly.guard fun _ => ?_
  refine .bind (.mapCause (Sealing.orderly_newSealedKey short config.accessKey)) fun _ => ?_
  exact .bind (World.orderly_log _) fun _ => .pure _

theorem orderly_rekey (ring : Ring) (accessKey : Bytes) (salt : Option Bytes) :
    Orderly (World.Limited limit) allowed (ring.rekey accessKey salt) := by
  unfold rekey
  refine .bind (orderly_checkAccessKey accessKey) fun _ => ?_
  refine .bind (.mapCause (Sealing.orderly_sealFresh short accessKey _ [])) fun _ => ?_
  exact .bind (World.orderly_log _) fun _ => .pure _

theorem orderly_randomKey {length : Nat} (positive : length ≠ 0)
    (long : lengthLimit ≤ length → allowed .lengthOverflow) :
    Orderly (World.Limited limit) allowed (randomKey length : Action ε Bytes) :=
  .ite (fun zero => absurd zero positive) fun _ => World.orderly_draw .storedKey short long

end Ring

end Drawing

section Changing

namespace Ring

theorem orderly_add (ring : Ring) {key : Bytes} (nonempty : key ≠ [])
    (full : ring.maxId = maxKeyId → allowed .idsExhausted) : Orderly (World.Limited limit) allowed (ring.add key) := by
  unfold add
  refine .ite (fun empty => absurd (List.isEmpty_iff.mp empty) nonempty) fun _ => .ite (fun last => ?_) fun _ => ?_
  · refine .bind (.throw fun fault same => ?_) fun _ => .bind (World.orderly_log _) fun _ => .pure _
    cases same
    exact full last
  · exact .bind (World.orderly_log _) fun _ => .pure _

theorem orderly_activate {ring : Ring} {id : KeyId} (has : ring.has id = true) :
    Orderly (World.Limited limit) allowed (ring.activate id) := by
  obtain ⟨view, activated⟩ := Snapshot.activate_of_has has
  refine .bind (.orFault fun fault refused => ?_) fun _ => .bind (World.orderly_log _) fun _ => .pure _
  rw [activated] at refused
  cases refused

end Ring

end Changing

end Limit

theorem Derivation.salt_fits_of_newAccessKey {ε : Type} {passphrase accessKey salt : Bytes} {world later : World}
    (derived : (newAccessKey passphrase : Action ε (Bytes × Bytes)) world = .ok (accessKey, salt) later) :
    salt.length ≤ max24 := by
  simp only [newAccessKey, newSalt, bind_eq_ok, pure_eq_ok, draw_eq_ok] at derived
  obtain ⟨_, _, ⟨-, rfl, -⟩, same, -⟩ := derived
  cases same
  rw [Supply.length_segment]
  decide

namespace Ring

section Writing

variable {ring : Ring} {accessKey : Bytes} {world later : World} {fault : Fault}

theorem length_sealedBundle {sealedBundle : Bytes} (bundled : ring.sealBundle world = .ok sealedBundle later) :
    sealedBundle.length = ring.sealedSize := by
  simp only [sealBundle, bind_eq_ok, orFault_eq_ok, mapCause_eq_ok, Bundle.encodeAll_parts, Part.encodeAll_packets]
    at bundled
  obtain ⟨_, _, ⟨⟨-, rfl⟩, rfl⟩, packed⟩ := bundled
  obtain ⟨-, wrapped⟩ := (Sealing.sealFresh_eq_ok_iff _).mp ⟨later, packed⟩
  exact length_sealed (Supply.length_segment _ _ _) wrapped

/-- Bundling goes wrong where the supply has run out, or at a key that is longer than a packet. -/
theorem sealBundle_fault (failed : ring.sealBundle world = .error (.fault fault) later) :
    fault = .randomness ∧ world.supply.limit ≠ none ∨
      ∃ length, fault = .packetTooBig length ∧ max24 < length ∧ length ≤ ring.sealedSize := by
  rcases bind_eq_error.mp failed with early | ⟨plain, between, encoded, late⟩
  · obtain ⟨_, stopped, same, -⟩ := orFault_eq_error.mp early
    cases same
    rw [Bundle.encodeAll_parts] at stopped
    obtain ⟨packet, member, tooBig, rfl⟩ := Part.encodeAll_packets_eq_error stopped
    -- The packet would have been a part of the bundle, and the sealed bundle would have been longer still.
    have inside := Packet.encodedLength_le_joined member
    refine .inr ⟨packet.content.length, rfl, Nat.lt_of_not_le tooBig, ?_⟩
    simp only [Packet.encodedLength] at inside
    simp only [sealedSize, Sealing.sealedLength]
    omega
  · obtain ⟨-, rfl⟩ := orFault_eq_ok.mp encoded
    have orderly : Orderly (World.Limited world.supply.limit)
        (fun fault => fault = .randomness ∧ world.supply.limit ≠ none)
        (Sealing.sealFresh ring.dataKey.bytes plain []) :=
      Sealing.orderly_sealFresh (fun limited => ⟨rfl, limited⟩) _ plain []
    exact .inl (orderly.mapCause.faults rfl late)

/-- Writing goes wrong where the supply has run out, or at a packet that is too big. -/
theorem WellFormed.encode_fault (formed : ring.WellFormed accessKey) (saltFits : ring.salt.length ≤ max24)
    (failed : ring.encode world = .error (.fault fault) later) :
    fault = .randomness ∧ world.supply.limit ≠ none ∨
      ∃ length, fault = .packetTooBig length ∧ max24 < length ∧ length ≤ ring.sealedSize := by
  rcases bind_eq_error.mp failed with early | ⟨sealedBundle, between, bundled, late⟩
  · exact sealBundle_fault early
  · obtain ⟨_, stopped, same, -⟩ := orFault_eq_error.mp late
    cases same
    rw [parts_eq] at stopped
    obtain ⟨packet, member, tooBig, rfl⟩ := Part.encodeAll_container_eq_error stopped
    obtain rfl := formed.big_packet saltFits member tooBig
    have size := length_sealedBundle bundled
    exact .inr ⟨sealedBundle.length, rfl, Nat.lt_of_not_le tooBig, size.le⟩

/-- To a sink that takes everything, nothing else goes wrong. -/
theorem write_fault {sink : Sink} (failed : ring.write sink world = .error (.fault fault) later) :
    ∃ between, ring.encode world = .error (.fault fault) between := by
  rcases bind_eq_error.mp failed with early | ⟨data, between, -, late⟩
  · exact ⟨later, early⟩
  · generalize sink.take data = taken at late
    obtain ⟨received, _ | _⟩ := taken
    · cases late
    · cases late

/-- A single key that is longer than a packet is not written. -/
theorem encode_of_big_key {key : Bytes} (view : ring.view = .single key) (extras : ring.bundleExtras = [])
    (big : max24 < 4 + key.length) (world : World) :
    ring.encode world = .error (.fault (.packetTooBig (4 + key.length))) world := by
  have packets := packets_of_single view extras
  have size : (Entry.packet ⟨1, key⟩).content.length = 4 + key.length := by
    rw [Entry.packet, Entry.content, List.length_append, length_be32]
  have unfit : ¬ (Entry.packet ⟨1, key⟩).Fits := by
    rw [Packet.Fits, size]
    exact Nat.not_le.mpr big
  have recordFits : (ActiveRecord.packet (some 1)).Fits := by
    have short : (4 : Nat) ≤ max24 := by decide
    exact short
  have stops : Part.encodeAll ring.bundle.parts = .error (.packetTooBig (4 + key.length)) := by
    rw [Bundle.encodeAll_parts, packets]
    cases built : Part.encodeAll ([ActiveRecord.packet (some 1), Entry.packet ⟨1, key⟩].map .packet) with
    | ok data => exact absurd ((Part.encodeAll_packets.mp built).1 _ (by simp)) unfit
    | error fault =>
      obtain ⟨packet, member, tooBig, rfl⟩ := Part.encodeAll_packets_eq_error built
      simp only [List.mem_cons, List.not_mem_nil, or_false] at member
      rcases member with rfl | rfl
      · exact absurd recordFits tooBig
      · rw [size]
  have stopped : (orFault (Part.encodeAll ring.bundle.parts) : RingAction Bytes) world =
      .error (.fault (.packetTooBig (4 + key.length))) world := orFault_eq_error.mpr ⟨_, stops, rfl, rfl⟩
  rw [encode, sealBundle, bind_of_error (bind_of_error stopped _)]

end Writing

/-- A ring in order, of which only the bundle can be too big. -/
structure Sound (ring : Ring) : Prop where
  formed : ∃ accessKey, ring.WellFormed accessKey
  saltFits : ring.salt.length ≤ max24

section Sound

variable {ring next : Ring} {world later : World}

theorem Sound.of_new {config : Config} {salt : Bytes} (given : config.salt = some salt) (saltFits : salt.length ≤ max24)
    (made : new config world = .ok ring later) : ring.Sound ∧ ring.sealedSize = 56 + config.initialKey.length := by
  have formed := (Origin.new made).wellFormed
  obtain ⟨-, -, -, _, -, rfl⟩ := (new_eq_ok_iff world).mp ⟨later, made⟩
  refine ⟨⟨⟨_, formed⟩, ?_⟩, sealedSize_single rfl rfl⟩
  rw [given]
  exact saltFits

theorem Sound.of_read {source : Source} {credential : Credential}
    (accepted : read source credential world = .ok ring later) : ring.Sound := by
  obtain ⟨data, layers, -, opened, rfl⟩ := (read_eq_ok_iff world).mp ⟨later, accepted⟩
  exact ⟨⟨_, Layers.wellFormed opened⟩, Layers.salt_fits opened⟩

theorem Sound.add {key : Bytes} {id : KeyId} (sound : ring.Sound) (added : ring.add key world = .ok (id, next) later) :
    next.Sound ∧ next.has id = true ∧ next.sealedSize = ring.sealedSize + 8 + key.length := by
  obtain ⟨accessKey, formed⟩ := sound.formed
  have size := formed.sealedSize_add added
  obtain ⟨nonempty, room, rfl, rfl⟩ := (add_eq_ok_iff world).mp ⟨later, added⟩
  have above : ∀ other ∈ ring.view.keys.entries, other.id < (⟨ring.maxId + 1, key⟩ : Entry).id := formed.lt_next room
  exact ⟨⟨⟨accessKey, formed.effect (.added nonempty room)⟩, sound.saltFits⟩, Snapshot.has_insert_above above, size⟩

theorem Sound.activate {id : KeyId} (sound : ring.Sound) (activated : ring.activate id world = .ok next later) :
    next.Sound ∧ next.sealedSize = ring.sealedSize := by
  obtain ⟨accessKey, formed⟩ := sound.formed
  obtain ⟨view, found, rfl⟩ := (activate_eq_ok_iff world).mp ⟨later, activated⟩
  obtain ⟨-, sameKeys⟩ := Snapshot.activate_eq_ok_iff.mp found
  exact ⟨⟨⟨accessKey, formed.effect (.activated found)⟩, sound.saltFits⟩, sealedSize_congr sameKeys rfl⟩

theorem Sound.rekey {accessKey salt : Bytes} (sound : ring.Sound) (saltFits : salt.length ≤ max24)
    (rekeyed : ring.rekey accessKey (some salt) world = .ok next later) :
    next.Sound ∧ next.sealedSize = ring.sealedSize := by
  obtain ⟨_, formed⟩ := sound.formed
  obtain ⟨-, wrappedKey, wrapped, rfl⟩ := (rekey_eq_ok_iff world).mp ⟨later, rekeyed⟩
  have opens := Sealing.openWith_eq_ok_iff.mpr ⟨_, Supply.length_segment _ _ _, wrapped⟩
  exact ⟨⟨⟨_, formed.effect (.rekeyed opens)⟩, saltFits⟩, sealedSize_congr rfl rfl⟩

end Sound

end Ring

end Keyring
