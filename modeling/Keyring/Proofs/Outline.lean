import Keyring.Proofs.Rekeying
import Keyring.Proofs.Twins

namespace Keyring

open Keyring.Action
open Outcome (Agree)

/-- The id and the length of a key. -/
def Entry.outline (entry : Entry) : KeyId × Nat :=
  (entry.id, entry.key.length)

theorem Entry.forall₂_of_outline {entries others : List Entry}
    (alike : entries.map Entry.outline = others.map Entry.outline) :
    List.Forall₂ (fun entry other => entry.outline = other.outline) entries others := by
  rwa [← List.forall₂_eq_eq_eq, List.forall₂_map_left_iff, List.forall₂_map_right_iff] at alike

/-- The keys in outline, and the position of the active one. -/
def Snapshot.outline (view : Snapshot) : List (KeyId × Nat) × Nat :=
  (view.keys.entries.map Entry.outline, view.active)

/-- What of a ring is no secret. -/
structure Ring.Outline where
  header : Header
  salt : Bytes
  wrappedKey : Nat
  dataKey : Nat
  view : List (KeyId × Nat) × Nat
  maxId : KeyId
  extras : List Packet
  bundleExtras : List Packet

def Ring.outline (ring : Ring) : Outline where
  header := ring.header
  salt := ring.salt
  wrappedKey := ring.wrappedKey.length
  dataKey := ring.dataKey.length
  view := ring.view.outline
  maxId := ring.maxId
  extras := ring.extras
  bundleExtras := ring.bundleExtras

/-- The outline with nothing left of the salt but its length. -/
def Ring.Outline.unsalted (outline : Outline) : Outline :=
  { outline with salt := List.replicate outline.salt.length 0 }

/-- What of a ring depends on no random byte either. -/
def Ring.contour (ring : Ring) : Outline :=
  ring.outline.unsalted

/-- Byte strings of one length, each in place of a spare one if it is given. -/
theorem SameLength.getD {bytes other : Option Bytes} (sizes : Option.Rel SameLength bytes other) {spare spare' : Bytes}
    (spares : SameLength spare spare') :
    bytes.isSome = other.isSome ∧ SameLength (bytes.getD spare) (other.getD spare') := by
  cases sizes with
  | none => exact ⟨rfl, spares⟩
  | some size => exact ⟨rfl, size⟩

theorem SameLength.refl (bytes : Option Bytes) : Option.Rel SameLength bytes bytes := by
  cases bytes with
  | none => exact .none
  | some bytes => exact .some rfl

theorem KeySet.find?_of_outline {keys other : KeySet} (alike : keys.entries.map Entry.outline = other.entries.map Entry.outline)
    (id : KeyId) : keys.find? id = other.find? id := by
  have among : ∀ keys : KeySet, keys.find? id = ((keys.entries.map Entry.outline).map Prod.fst).findIdx? (· == id) := by
    intro keys
    rw [List.map_map, List.findIdx?_map]
    rfl
  rw [among, among, alike]

namespace Snapshot

variable {view twin : Snapshot}

section Alike

variable (alike : view.outline = twin.outline)
include alike

theorem entries_of_outline : view.keys.entries.map Entry.outline = twin.keys.entries.map Entry.outline :=
  congrArg Prod.fst alike

theorem ids_of_outline : view.ids = twin.ids := by
  have drop : ∀ view : Snapshot, view.ids = (view.keys.entries.map Entry.outline).map Prod.fst := by
    intro view
    rw [List.map_map]
    rfl
  rw [drop, drop, entries_of_outline alike]

theorem length_of_outline : view.length = twin.length := by
  have same := congrArg List.length (entries_of_outline alike)
  rwa [List.length_map, List.length_map] at same

theorem activeId_of_outline : view.activeId = twin.activeId := by
  have position : view.active = twin.active := congrArg Prod.snd alike
  have here : ∀ view : Snapshot, view.ids[view.active]? = some view.activeId := by
    intro view
    have within : view.active < view.keys.entries.length := view.active_lt
    simp [ids, KeySet.ids, activeId, activeEntry, within]
  have same : some view.activeId = some twin.activeId := by
    rw [← here view, ← here twin, ids_of_outline alike, position]
  exact Option.some.inj same

theorem find?_of_outline (id : KeyId) : view.keys.find? id = twin.keys.find? id :=
  KeySet.find?_of_outline (entries_of_outline alike) id

theorem has_of_outline (id : KeyId) : view.has id = twin.has id := by
  rw [has, has, find?_of_outline alike]

theorem summary_of_outline : view.summary = twin.summary := by
  have shown : ∀ keys : KeySet, keys.summary = "SortedKeys \x7b keys: [" ++ String.intercalate ", "
      ((keys.entries.map Entry.outline).map fun (key : KeyId × Nat) =>
        let secret := s!"SecretBytes([REDACTED; {key.2}])"
        s!"KeyInfo \x7b id: {key.1.toNat}, key: {secret} \x7d") ++ "] \x7d" := by
    intro keys
    rw [List.map_map]
    rfl
  have position : view.active = twin.active := congrArg Prod.snd alike
  unfold summary
  rw [shown, shown, entries_of_outline alike, position]

theorem activate_of_outline (id : KeyId) :
    Agree (fun next other => next.outline = other.outline) (view.activate id) (twin.activate id) := by
  have same := find?_of_outline alike id
  have keys := entries_of_outline alike
  unfold activate
  split
  next position found =>
    split
    next other foundToo =>
      have here : position = other := Option.some.inj (found.symm.trans (same.trans foundToo))
      exact .ok (Prod.ext keys here)
    next absent => cases found.symm.trans (same.trans absent)
  next absent =>
    split
    next other found => cases absent.symm.trans (same.trans found)
    next => exact .error (Fault.noSuchKey id)

end Alike

theorem outline_insert_above {entry : Entry} (above : ∀ other ∈ view.keys.entries, other.id < entry.id) :
    (view.insert entry).outline = (view.outline.1 ++ [entry.outline], view.outline.2) := by
  rw [outline, entries_insert_above above, active_insert_above above, List.map_append]
  rfl

end Snapshot

namespace Part

theorem mapM_encode_agree {parts others : List Part}
    (alike : List.Forall₂ (fun part other => Agree SameLength part.encode other.encode) parts others) :
    Agree (List.Forall₂ SameLength) (parts.mapM encode) (others.mapM encode) := by
  induction alike with
  | nil => exact .ok .nil
  | @cons part other rest behind here _ ih =>
    rw [List.mapM_cons, List.mapM_cons]
    cases first : part.encode <;> cases second : other.encode <;> rw [first, second] at here <;> cases here
    case error.error fault => exact .error fault
    case ok.ok chunk chunk' size =>
      cases front : rest.mapM encode <;> cases back : behind.mapM encode <;> rw [front, back] at ih <;> cases ih
      case error.error fault => exact .error fault
      case ok.ok chunks chunks' sizes => exact .ok (.cons size sizes)

/-- Parts that take as many bytes, or stop for the same fault, do so together. -/
theorem encodeAll_agree {parts others : List Part}
    (alike : List.Forall₂ (fun part other => Agree SameLength part.encode other.encode) parts others) :
    Agree SameLength (encodeAll parts) (encodeAll others) := by
  have joins : ∀ {chunks chunks' : List Bytes}, List.Forall₂ SameLength chunks chunks' →
      SameLength (joined chunks) (joined chunks') := by
    intro chunks chunks' sizes
    rw [joined_eq_flatten, joined_eq_flatten, SameLength]
    induction sizes with
    | nil => rfl
    | cons size _ ih => rw [List.flatten_cons, List.flatten_cons, List.length_append, List.length_append, size, ih]
  have chunks := mapM_encode_agree alike
  rw [encodeAll, encodeAll]
  cases first : parts.mapM encode <;> cases second : others.mapM encode <;> rw [first, second] at chunks <;> cases chunks
  case ok.ok sizes => exact .ok (joins sizes)
  case error.error fault => exact .error fault

theorem encode_packet_agree {type : PacketType} {content other : Bytes} (size : SameLength content other) :
    Agree SameLength (encode (.packet ⟨type, content⟩)) (encode (.packet ⟨type, other⟩)) := by
  have fits : Packet.Fits ⟨type, content⟩ ↔ Packet.Fits ⟨type, other⟩ := by
    rw [Packet.Fits, Packet.Fits, size]
  rw [encode, encode, Packet.encode, Packet.encode, if_congr fits rfl rfl]
  split
  · refine .ok ?_
    rw [SameLength, Packet.length_bytes, Packet.length_bytes, Packet.encodedLength, Packet.encodedLength, size]
  · rw [size]
    exact .error _

theorem encode_agree (part : Part) : Agree SameLength part.encode part.encode := by
  cases part.encode with
  | ok data => exact .ok rfl
  | error fault => exact .error fault

end Part

namespace Sealing

variable {key key' plain plain' aad aad' : Bytes}

theorem sealWith_agree {nonce nonce' : Bytes} (keys : SameLength key key') (nonces : SameLength nonce nonce')
    (plains : SameLength plain plain') :
    Agree SameLength (sealWith key nonce plain aad) (sealWith key' nonce' plain' aad') := by
  have within : withinCounter plain = withinCounter plain' := by rw [withinCounter, withinCounter, plains]
  rw [sealWith, sealWith, keys, within]
  split
  · exact .error _
  · split
    · refine .ok ?_
      rw [SameLength, length_envelope, length_envelope, nonces, plains]
    · exact .error _

section Worlds

variable {coupled : World → World → Prop} (coupling : World.Coupling coupled)
include coupling

theorem meets_sealFresh (keys : SameLength key key') (plains : SameLength plain plain') :
    Meets coupled SameLength (sealFresh key plain aad) (sealFresh key' plain' aad') := by
  unfold sealFresh
  refine .guard (by rw [keys]) (by rw [keys]) fun _ => ?_
  refine .bind (.draw coupling .nonce nonceLength) fun nonce nonce' nonces => ?_
  exact .ofExcept (sealWith_agree keys nonces plains)

theorem meets_newSealedKey {length : Nat} (keys : SameLength key key') :
    Meets coupled (fun made other => SameLength made.1 other.1 ∧ SameLength made.2 other.2) (newSealedKey key length)
      (newSealedKey key' length) := by
  unfold newSealedKey
  refine .guard (by rw [keys]) (by rw [keys]) fun _ => ?_
  refine .bind (.draw coupling .dataKey length) fun dataKey dataKey' dataKeys => ?_
  exact .bind (meets_sealFresh coupling keys dataKeys) fun wrapped wrapped' sizes => .pure ⟨dataKeys, sizes⟩

end Worlds

end Sealing

/-- A sink takes as much of the one as of the other. -/
theorem Sink.take_agree (sink : Sink) {data data' : Bytes} (sizes : SameLength data data') :
    SameLength (sink.take data).1 (sink.take data').1 ∧ (sink.take data).2 = (sink.take data').2 := by
  rw [take, take]
  cases sink.room with
  | none => exact ⟨sizes, rfl⟩
  | some room =>
    dsimp only
    rw [SameLength, List.length_take, List.length_take, sizes]
    exact ⟨rfl, rfl⟩

namespace Ring

variable {ring twin : Ring}

theorem contour_of_outline (alike : ring.outline = twin.outline) : ring.contour = twin.contour :=
  congrArg Outline.unsalted alike

/-- A contour and a salt make an outline. -/
theorem outline_of_contour (alike : ring.contour = twin.contour) (salts : ring.salt = twin.salt) :
    ring.outline = twin.outline := by
  show { ring.contour with salt := ring.salt } = { twin.contour with salt := twin.salt }
  rw [alike, salts]

section Shown

variable (alike : ring.contour = twin.contour)
include alike

theorem view_of_contour : ring.view.outline = twin.view.outline :=
  congrArg Outline.view alike

theorem salt_of_contour : SameLength ring.salt twin.salt := by
  have salts := congrArg (fun outline => outline.salt.length) alike
  unfold SameLength
  simpa only [contour, outline, Outline.unsalted, List.length_replicate] using salts

theorem wrappedKey_of_contour : SameLength ring.wrappedKey twin.wrappedKey :=
  congrArg Outline.wrappedKey alike

theorem dataKey_of_contour : SameLength ring.dataKey.bytes twin.dataKey.bytes :=
  congrArg Outline.dataKey alike

theorem maxId_of_contour : ring.maxId = twin.maxId :=
  congrArg Outline.maxId alike

theorem extras_of_contour : ring.extras = twin.extras :=
  congrArg Outline.extras alike

theorem bundleExtras_of_contour : ring.bundleExtras = twin.bundleExtras :=
  congrArg Outline.bundleExtras alike

theorem length_of_contour : ring.length = twin.length :=
  Snapshot.length_of_outline (view_of_contour alike)

theorem activeId_of_contour : ring.activeId = twin.activeId :=
  Snapshot.activeId_of_outline (view_of_contour alike)

end Shown

section Outlined

variable (alike : ring.outline = twin.outline)
include alike

theorem view_of_outline : ring.view.outline = twin.view.outline :=
  congrArg Outline.view alike

theorem salt_of_outline : ring.salt = twin.salt :=
  congrArg Outline.salt alike

theorem wrappedKey_of_outline : SameLength ring.wrappedKey twin.wrappedKey :=
  congrArg Outline.wrappedKey alike

theorem maxId_of_outline : ring.maxId = twin.maxId :=
  congrArg Outline.maxId alike

theorem length_of_outline : ring.length = twin.length :=
  Snapshot.length_of_outline (view_of_outline alike)

theorem activeId_of_outline : ring.activeId = twin.activeId :=
  Snapshot.activeId_of_outline (view_of_outline alike)

theorem summary_of_outline : ring.summary = twin.summary := by
  unfold summary
  rw [length_of_outline alike, activeId_of_outline alike, maxId_of_outline alike]

end Outlined

/-- The bytes are those of the ring's container, as some world seals its bundle. -/
def Encoded (ring : Ring) (data : Bytes) : Prop :=
  ∃ world later, ring.encode world = .ok data later

section Meeting

variable {coupled : World → World → Prop} (coupling : World.Coupling coupled) {accessKey accessKey' : Bytes}

theorem meets_checkAccessKey {key key' : Bytes} (keys : SameLength key key') :
    Meets coupled (fun _ _ => True) (checkAccessKey key) (checkAccessKey key') := by
  unfold checkAccessKey
  rw [keys]
  exact .ite Iff.rfl (fun _ => .pure trivial) fun _ => .throw _

include coupling

theorem meets_new {config other : Config} (initialKeys : SameLength config.initialKey other.initialKey)
    (accessKeys : SameLength config.accessKey other.accessKey) (salts : Option.Rel SameLength config.salt other.salt) :
    Meets coupled (fun ring twin => ring.contour = twin.contour) (new config) (new other) := by
  have spares : SameLength [] [] := rfl
  obtain ⟨salted, sizes⟩ := SameLength.getD salts spares
  unfold new
  refine .bind (meets_checkAccessKey accessKeys) fun _ _ _ => ?_
  refine .guard (by rw [initialKeys.isEmpty]) rfl fun _ => ?_
  refine .bind (.mapCause (Sealing.meets_newSealedKey coupling accessKeys)) fun made made' lengths => ?_
  obtain ⟨dataKeys, wrappedKeys⟩ := lengths
  rw [salted]
  refine .bind (.log coupling _) fun _ _ _ => .pure ?_
  have views : (Snapshot.single config.initialKey).outline = (Snapshot.single other.initialKey).outline :=
    congrArg (fun size => ([((1 : KeyId), size)], 0)) initialKeys
  simp only [contour, outline, Outline.unsalted, views, Secret.length]
  rw [dataKeys, wrappedKeys, sizes]

theorem meets_add {key key' : Bytes} (alike : ring.contour = twin.contour) (formed : ring.WellFormed accessKey)
    (twinFormed : twin.WellFormed accessKey') (keys : SameLength key key') :
    Meets coupled (fun made other => made.1 = other.1 ∧ made.2.contour = other.2.contour) (ring.add key)
      (twin.add key') := by
  have maxIds := maxId_of_contour alike
  unfold add
  refine .guard (by rw [keys.isEmpty]) rfl fun _ => .guard (by rw [maxIds]) rfl fun room => ?_
  rw [maxIds]
  refine .bind (.log coupling _) fun _ _ _ => .pure ⟨rfl, ?_⟩
  have room' : twin.maxId ≠ maxKeyId := maxIds ▸ room
  have above : ∀ other ∈ ring.view.keys.entries, other.id < (⟨twin.maxId + 1, key⟩ : Entry).id :=
    maxIds ▸ formed.lt_next room
  have above' : ∀ other ∈ twin.view.keys.entries, other.id < (⟨twin.maxId + 1, key'⟩ : Entry).id :=
    twinFormed.lt_next room'
  have entry : Entry.outline ⟨twin.maxId + 1, key⟩ = Entry.outline ⟨twin.maxId + 1, key'⟩ :=
    congrArg (Prod.mk (twin.maxId + 1)) keys
  have views := view_of_contour alike
  have inserted : (ring.view.insert ⟨twin.maxId + 1, key⟩).outline = (twin.view.insert ⟨twin.maxId + 1, key'⟩).outline := by
    rw [Snapshot.outline_insert_above above, Snapshot.outline_insert_above above', views, entry]
  show { ring.contour with view := (ring.view.insert ⟨twin.maxId + 1, key⟩).outline, maxId := twin.maxId + 1 } =
    { twin.contour with view := (twin.view.insert ⟨twin.maxId + 1, key'⟩).outline, maxId := twin.maxId + 1 }
  rw [alike, inserted]

theorem meets_randomKey {ε : Type} (length : Nat) :
    Meets coupled SameLength (randomKey length : Action ε Bytes) (randomKey length : Action ε Bytes) := by
  unfold randomKey
  exact .guard Iff.rfl rfl fun _ => .draw coupling .storedKey length

variable (alike : ring.contour = twin.contour)
include alike

theorem meets_activate (id : KeyId) :
    Meets coupled (fun next other => next.contour = other.contour) (ring.activate id) (twin.activate id) := by
  have views := view_of_contour alike
  refine .bind (.orFault (Snapshot.activate_of_outline views id)) fun view view' same => ?_
  refine .bind (.log coupling _) fun _ _ _ => .pure ?_
  show { ring.contour with view := view.outline } = { twin.contour with view := view'.outline }
  rw [alike, same]

theorem meets_rekey {salt salt' : Option Bytes} (keys : SameLength accessKey accessKey')
    (salts : Option.Rel SameLength salt salt') :
    Meets coupled (fun next other => next.contour = other.contour) (ring.rekey accessKey salt)
      (twin.rekey accessKey' salt') := by
  have dataKeys := dataKey_of_contour alike
  obtain ⟨salted, sizes⟩ := SameLength.getD salts (salt_of_contour alike)
  unfold rekey
  refine .bind (meets_checkAccessKey keys) fun _ _ _ => ?_
  refine .bind (.mapCause (Sealing.meets_sealFresh coupling keys dataKeys)) fun wrappedKey wrappedKey' wrapped => ?_
  rw [salted]
  refine .bind (.log coupling _) fun _ _ _ => .pure ?_
  show { ring.contour with
      wrappedKey := wrappedKey.length, salt := List.replicate (salt.getD ring.salt).length 0 } =
    { twin.contour with wrappedKey := wrappedKey'.length, salt := List.replicate (salt'.getD twin.salt).length 0 }
  rw [alike, wrapped, sizes]

omit coupling in
theorem bundle_parts_agree : List.Forall₂ (fun part other => Outcome.Agree SameLength part.encode other.encode)
    ring.bundle.parts twin.bundle.parts := by
  have views := view_of_contour alike
  have entries : List.Forall₂ (fun part other => Outcome.Agree SameLength (Part.encode part) (Part.encode other))
      (ring.view.keys.entries.map .entry) (twin.view.keys.entries.map .entry) := by
    rw [List.forall₂_map_left_iff, List.forall₂_map_right_iff]
    refine (Entry.forall₂_of_outline (Snapshot.entries_of_outline views)).imp fun entry other same => ?_
    obtain ⟨ids, sizes⟩ := Prod.mk.inj same
    have content : SameLength entry.content other.content := by
      rw [SameLength, Entry.content, Entry.content, List.length_append, List.length_append, length_be32, length_be32,
        sizes]
    exact Part.encode_packet_agree content
  rw [Bundle.parts, Bundle.parts, bundle, bundle, Snapshot.activeId_of_outline views, bundleExtras_of_contour alike]
  refine .cons (Part.encode_agree _) ?_
  refine List.rel_append entries ?_
  exact List.forall₂_same.mpr fun part _ => Part.encode_agree part

omit coupling in
theorem parts_agree {sealedBundle sealedBundle' : Bytes} (sizes : SameLength sealedBundle sealedBundle') :
    List.Forall₂ (fun part other => Outcome.Agree SameLength part.encode other.encode) (ring.parts sealedBundle)
      (twin.parts sealedBundle') := by
  have header : ring.header = twin.header := congrArg Outline.header alike
  rw [parts, parts, header, extras_of_contour alike]
  refine .cons (Part.encode_agree _) (.cons (Part.encode_packet_agree (salt_of_contour alike)) ?_)
  refine .cons (Part.encode_packet_agree (wrappedKey_of_contour alike)) (.cons (Part.encode_packet_agree sizes) ?_)
  exact List.forall₂_same.mpr fun part _ => Part.encode_agree part

theorem meets_encode : Meets coupled SameLength ring.encode twin.encode := by
  have dataKeys := dataKey_of_contour alike
  have sealing : Meets coupled SameLength ring.sealBundle twin.sealBundle :=
    .bind (.orFault (Part.encodeAll_agree (bundle_parts_agree alike))) fun plain plain' plains =>
      .mapCause (Sealing.meets_sealFresh coupling dataKeys plains)
  exact .bind sealing fun sealedBundle sealedBundle' sizes => .orFault (Part.encodeAll_agree (parts_agree alike sizes))

theorem meets_write (sink : Sink) :
    Meets coupled (fun delivery other => delivery.written = other.written ∧ ∃ data data', ring.Encoded data ∧
        twin.Encoded data' ∧ SameLength data data' ∧ delivery.received = (sink.take data).1 ∧
        other.received = (sink.take data').1)
      (ring.write sink) (twin.write sink) := by
  have lengths := length_of_contour alike
  have encoding : Meets coupled (fun data data' => SameLength data data' ∧ ring.Encoded data ∧ twin.Encoded data')
      ring.encode twin.encode :=
    (meets_encode coupling alike).imp fun done doneToo sizes => ⟨sizes, ⟨_, _, done⟩, ⟨_, _, doneToo⟩⟩
  refine .bind encoding fun data data' encoded => ?_
  obtain ⟨sizes, whole, whole'⟩ := encoded
  have outcome := (sink.take_agree sizes).2
  generalize taking : sink.take data = taken at outcome ⊢
  generalize takingToo : sink.take data' = taken' at outcome ⊢
  obtain ⟨front, ended⟩ := taken
  obtain ⟨front', ended'⟩ := taken'
  obtain rfl : ended = ended' := outcome
  have received : front = (sink.take data).1 := by rw [taking]
  have received' : front' = (sink.take data').1 := by rw [takingToo]
  cases ended with
  | ok nothing =>
    dsimp only
    rw [sizes, lengths]
    exact .bind (.log coupling _) fun _ _ _ => .pure ⟨rfl, data, data', whole, whole', sizes, received, received'⟩
  | error failure => exact .pure ⟨rfl, data, data', whole, whole', sizes, received, received'⟩

end Meeting

section Twin

variable {accessKey accessKey' : Bytes}

theorem twins_new {config twin : Config} (initialKeys : SameLength config.initialKey twin.initialKey)
    (accessKeys : SameLength config.accessKey twin.accessKey) (salts : config.salt = twin.salt) :
    Twins (fun ring other => ring.outline = other.outline) (new config) (new twin) := by
  have same : Option.Rel SameLength config.salt twin.salt := salts ▸ SameLength.refl config.salt
  refine (meets_new World.Twin.coupling initialKeys accessKeys same).imp fun made madeToo alike => ?_
  refine outline_of_contour alike ?_
  obtain ⟨-, -, -, _, -, rfl⟩ := (new_eq_ok_iff _).mp ⟨_, made⟩
  obtain ⟨-, -, -, _, -, rfl⟩ := (new_eq_ok_iff _).mp ⟨_, madeToo⟩
  exact congrArg (·.getD []) salts

theorem twins_add {key key' : Bytes} (alike : ring.outline = twin.outline) (formed : ring.WellFormed accessKey)
    (twinFormed : twin.WellFormed accessKey') (keys : SameLength key key') :
    Twins (fun made other => made.1 = other.1 ∧ made.2.outline = other.2.outline) (ring.add key) (twin.add key') := by
  have salts := salt_of_outline alike
  have meets := meets_add World.Twin.coupling (contour_of_outline alike) formed twinFormed keys
  refine meets.imp fun added addedToo same => ⟨same.1, outline_of_contour same.2 ?_⟩
  obtain ⟨-, -, -, next⟩ := (add_eq_ok_iff _).mp ⟨_, added⟩
  obtain ⟨-, -, -, next'⟩ := (add_eq_ok_iff _).mp ⟨_, addedToo⟩
  rw [next, next']
  exact salts

theorem twins_addRandom (alike : ring.outline = twin.outline) (formed : ring.WellFormed accessKey)
    (twinFormed : twin.WellFormed accessKey') (length : Nat) :
    Twins (fun made other => made.1 = other.1 ∧ made.2.outline = other.2.outline) (ring.addRandom length)
      (twin.addRandom length) :=
  .bind (meets_randomKey World.Twin.coupling length) fun _ _ sizes => twins_add alike formed twinFormed sizes

variable (alike : ring.outline = twin.outline)
include alike

theorem twins_activate (id : KeyId) :
    Twins (fun next other => next.outline = other.outline) (ring.activate id) (twin.activate id) := by
  have salts := salt_of_outline alike
  refine (meets_activate World.Twin.coupling (contour_of_outline alike) id).imp fun activated activatedToo same => ?_
  refine outline_of_contour same ?_
  obtain ⟨_, -, rfl⟩ := (activate_eq_ok_iff _).mp ⟨_, activated⟩
  obtain ⟨_, -, rfl⟩ := (activate_eq_ok_iff _).mp ⟨_, activatedToo⟩
  exact salts

theorem twins_rekey (keys : SameLength accessKey accessKey') (salt : Option Bytes) :
    Twins (fun next other => next.outline = other.outline) (ring.rekey accessKey salt) (twin.rekey accessKey' salt) := by
  have meets := meets_rekey World.Twin.coupling (contour_of_outline alike) keys (SameLength.refl salt)
  refine meets.imp fun rekeyed rekeyedToo same => ?_
  refine outline_of_contour same ?_
  obtain ⟨-, _, -, rfl⟩ := (rekey_eq_ok_iff _).mp ⟨_, rekeyed⟩
  obtain ⟨-, _, -, rfl⟩ := (rekey_eq_ok_iff _).mp ⟨_, rekeyedToo⟩
  exact congrArg (salt.getD ·) (salt_of_outline alike)

theorem twins_write (sink : Sink) :
    Twins (fun delivery other => delivery.written = other.written ∧ ∃ data data', ring.Encoded data ∧
        twin.Encoded data' ∧ SameLength data data' ∧ delivery.received = (sink.take data).1 ∧
        other.received = (sink.take data').1)
      (ring.write sink) (twin.write sink) :=
  meets_write World.Twin.coupling (contour_of_outline alike) sink

end Twin

end Ring

end Keyring
