import Keyring.Proofs.Frame
import Keyring.Proofs.Interruption
import Keyring.Proofs.Outline

namespace Keyring

open Keyring.Action

section Quietly

variable {holds : World → Prop} {packets : List Packet}

/-- Nothing is said of packets whose types are all defined. -/
theorem Bundle.keeps_inspect (known : ∀ packet ∈ packets, packet.type.role ≠ .unknown) (activeSeen : Bool) :
    Keeps holds (inspect activeSeen packets) := by
  induction packets generalizing activeSeen with
  | nil => exact .pure ()
  | cons packet rest ih =>
    have others : ∀ other ∈ rest, other.type.role ≠ .unknown := fun other member => known other (List.mem_cons_of_mem _ member)
    unfold inspect
    split
    · exact .guard fun _ => .bind (.ofExcept _) fun _ => ih others true
    · exact .bind (.ofExcept _) fun _ => ih others activeSeen
    next unknown => exact absurd unknown (known packet List.mem_cons_self)
    all_goals exact .throw _

theorem Ring.keeps_inspect (known : ∀ packet ∈ packets, packet.type.role ≠ .unknown) (seen : List Role) :
    Keeps holds (inspect seen packets) := by
  induction packets generalizing seen with
  | nil => exact .pure ()
  | cons packet rest ih =>
    have others : ∀ other ∈ rest, other.type.role ≠ .unknown := fun other member => known other (List.mem_cons_of_mem _ member)
    unfold inspect
    split
    next unknown => exact absurd unknown (known packet List.mem_cons_self)
    · exact .throw _
    · exact .throw _
    · exact .ite (.throw _) (ih others _)

/-- Packets that are all known, and of which none stands there too often, are passed without a word. -/
theorem Ring.inspect_of_known (known : ∀ packet ∈ packets, packet.type.role ≠ .unknown)
    (few : ∀ role, role ≠ .unknown → packets.countP (·.type.role = role) ≤ allowance [] role) (world : World) :
    inspect [] packets world = .ok () world := by
  obtain ⟨inspected, passed⟩ := (inspect_eq_ok_iff world).mpr few
  have keeps : Keeps (· = world) (inspect [] packets) := keeps_inspect known []
  have quiet : inspected = world := keeps.of_ok rfl passed
  rwa [quiet] at passed

theorem Bundle.decode_keeps {plain : Bytes} {bundle : Bundle} {id : KeyId} {world later : World}
    (parsed : Packet.parseAll 0 plain = .ok packets) (known : ∀ packet ∈ packets, packet.type.role ≠ .unknown)
    (recorded : recordedActive packets = some id) (decoded : decode plain world = .ok bundle later) : later = world := by
  unfold decode at decoded
  simp only [bind_eq_ok, ofExcept_eq_ok, Outcome.mapError_eq_ok, pure_eq_ok] at decoded
  obtain ⟨found, _, ⟨foundParsed, rfl⟩, _, between, inspected, keys, _, ⟨-, rfl⟩, view, _, viewed, -, rfl⟩ := decoded
  have same : found = packets := Except.ok.inj (foundParsed.symm.trans parsed)
  rw [same] at inspected viewed
  have keeps : Keeps (· = world) (inspect false packets) := keeps_inspect known false
  have quiet : between = world := keeps.of_ok rfl inspected
  rw [recorded] at viewed
  cases position : keys.find? id with
  | some position =>
    rw [viewOf_found position] at viewed
    exact (pure_eq_ok.mp viewed).2.symm.trans quiet
  | none =>
    obtain ⟨cause, failed⟩ := viewOf_absent position
    rw [failed] at viewed
    cases fail_eq_ok.mp viewed

end Quietly

namespace Ring

/-- A ring without unknown packets. -/
def Plain (ring : Ring) : Prop :=
  ring.extras = [] ∧ ring.bundleExtras = []

variable {ring : Ring} {accessKey data : Bytes}

theorem Plain.known_container (plain : ring.Plain) (sealedBundle : Bytes) :
    ∀ packet ∈ (ring.container sealedBundle).packets, packet.type.role ≠ .unknown := by
  intro packet member
  rw [container, plain.1] at member
  simp only [List.mem_cons, List.not_mem_nil, or_false] at member
  have salt : PacketType.role .salt ≠ .unknown := by decide
  have dataKey : PacketType.role .dataKey ≠ .unknown := by decide
  have bundle : PacketType.role .bundle ≠ .unknown := by decide
  rcases member with rfl | rfl | rfl
  · exact salt
  · exact dataKey
  · exact bundle

theorem Plain.known_bundle (plain : ring.Plain) : ∀ packet ∈ ring.bundle.packets, packet.type.role ≠ .unknown := by
  intro packet member
  rw [Bundle.packets, bundle, plain.2, List.append_nil] at member
  have active : PacketType.role .active ≠ .unknown := by decide
  have entry : PacketType.role .entry ≠ .unknown := by decide
  rcases List.mem_cons.mp member with rfl | stored
  · exact active
  · obtain ⟨_, -, rfl⟩ := List.mem_map.mp stored
    exact entry

section Whole

/-- Of a plain ring's bundle, nothing is said when it is decoded. -/
theorem WellFormed.decode_bundle (formed : ring.WellFormed accessKey) (plain : ring.Plain)
    (parsed : Packet.parseAll 0 (Packet.joined ring.bundle.packets) = .ok ring.bundle.packets) (world : World) :
    Bundle.decode (Packet.joined ring.bundle.packets) world = .ok ring.bundle world := by
  have unknown : ∀ packet ∈ ring.bundle.extras, packet.type.role = .unknown :=
    fun packet member => (formed.bundleExtras packet member).1
  have described := Bundle.describes_packets formed.ascending formed.nonzero unknown
  obtain ⟨later, decoded⟩ := (Bundle.decode_eq_ok_iff world).mpr ⟨_, parsed, described⟩
  have recorded : Bundle.recordedActive ring.bundle.packets = some ring.bundle.view.activeId :=
    Bundle.recordedActive_packets formed.nonzero
  have same := Bundle.decode_keeps parsed plain.known_bundle recorded decoded
  rwa [same] at decoded

/-- What is told of a plain ring that was read. -/
def readEvent (ring : Ring) : Event :=
  .ofRing .debug "read keyring"
    [("keys", toString ring.length), ("active", toString ring.activeId.toNat), ("unknown", toString 0)]

theorem readEvent_of_outline {twin : Ring} (alike : ring.outline = twin.outline) : ring.readEvent = twin.readEvent := by
  rw [readEvent, readEvent, length_of_outline alike, activeId_of_outline alike]

/-- The file of a plain ring is a container whose packets are all known. -/
theorem Encoded.opened (encoded : ring.Encoded data) (formed : ring.WellFormed accessKey) (plain : ring.Plain) :
    ∃ sealedBundle, Container.parse data = .ok (ring.container sealedBundle) ∧
      (ring.container sealedBundle).Holds ring.salt ring.wrappedKey sealedBundle ∧
      Sealing.openWith ring.dataKey.bytes sealedBundle [] = .ok (Packet.joined ring.bundle.packets) ∧
      Packet.parseAll 0 (Packet.joined ring.bundle.packets) = .ok ring.bundle.packets ∧
      ∀ credential world, read (.ofBytes data) credential world =
        openLayers (ring.container sealedBundle) credential ring.salt ring.wrappedKey sealedBundle world := by
  obtain ⟨world, later, done⟩ := encoded
  obtain ⟨sealedBundle, parsed, bundleOpens, innerParsed⟩ := opens_of_encode done
  have holds := container_holds formed sealedBundle
  refine ⟨sealedBundle, parsed, holds, bundleOpens, innerParsed, fun credential begun => ?_⟩
  have passed := inspect_of_known (plain.known_container sealedBundle) (holds_iff.mp holds).2.1 begun
  exact read_eq_openLayers_of_inspect (Source.contents_ofBytes data) parsed holds credential passed

/-- With the access key of the time of writing, the file of a plain ring is read as the ring. The credential is asked
with the salt, and nothing is told but how many keys there are, and which one is active. -/
theorem Encoded.read_open {credential : Credential} (encoded : ring.Encoded data)
    (formed : ring.WellFormed (credential.key ring.salt)) (plain : ring.Plain) (world : World) :
    read (.ofBytes data) credential world =
      .ok ring { world with trace := (world.trace.push (.asked ring.salt)).push (.event ring.readEvent) } := by
  obtain ⟨sealedBundle, parsed, holds, bundleOpens, innerParsed, same⟩ := encoded.opened formed plain
  have accessKeyFits := (Sealing.eq_envelope_of_openWith formed.opens).1
  have asked : ask credential ring.salt world =
      .ok (credential.key ring.salt) { world with trace := world.trace.push (.asked ring.salt) } :=
    ask_eq_ok.mpr ⟨rfl, accessKeyFits, rfl⟩
  have unwrapped : ∀ world, openContent (credential.key ring.salt) ring.wrappedKey world =
      .ok ring.dataKey.bytes world := fun world => openContent_eq_ok.mpr ⟨formed.opens, rfl⟩
  have opened : ∀ world, openContent ring.dataKey.bytes sealedBundle world =
      .ok (Packet.joined ring.bundle.packets) world := fun world => openContent_eq_ok.mpr ⟨bundleOpens, rfl⟩
  have decoded := formed.decode_bundle plain innerParsed
  have none : ring.extras.length + ring.bundle.extras.length = 0 := by
    rw [plain.1, bundle, plain.2]
    rfl
  have logged : (log ring.readEvent : RingAction Unit) { world with trace := world.trace.push (.asked ring.salt) } =
      .ok () { world with trace := (world.trace.push (.asked ring.salt)).push (.event ring.readEvent) } := rfl
  rw [same, openLayers, bind_of_ok asked, bind_of_ok (unwrapped _), if_neg (not_not_intro formed.dataKeyFits)]
  dsimp only
  rw [bind_of_ok (opened _), bind_of_ok (decoded _), unknownAmong_container formed, none]
  refine (bind_of_ok logged _).trans (pure_eq_ok.mpr ⟨?_, rfl⟩)
  show { ring with maxId := ring.view.keys.maxId } = ring
  rw [← formed.maxId]

/-- A key that does not open the stored data key reads nothing. The credential is asked with the salt. -/
theorem Encoded.read_closed {credential : Credential} (encoded : ring.Encoded data)
    (formed : ring.WellFormed accessKey) (plain : ring.Plain)
    (fits : (credential.key ring.salt).length = Credential.keyLength)
    (closed : ∀ plain, Sealing.openWith (credential.key ring.salt) ring.wrappedKey [] ≠ .ok plain) (world : World) :
    read (.ofBytes data) credential world =
      .error (.error .refused) { world with trace := world.trace.push (.asked ring.salt) } := by
  obtain ⟨sealedBundle, -, -, -, -, same⟩ := encoded.opened formed plain
  rw [same, openLayers_of_closed fits (formed.refused fits closed)]

end Whole

end Ring

/-- Packets of which the types and lengths are the same. -/
def Packet.Alike (packet other : Packet) : Prop :=
  packet.type = other.type ∧ SameLength packet.content other.content

namespace Reading

variable {data : Bytes}

theorem of_shortHeader (something : data ≠ []) (front : Front.of data = .shortHeader) (offset : Nat) :
    of offset data = ⟨[], some (.shortPacketHeader offset)⟩ := by
  rw [of, collect, if_neg (by simpa using something)]
  split <;> simp_all

theorem of_shortContent {expected actual : Nat} (something : data ≠ [])
    (front : Front.of data = .shortContent expected actual) (offset : Nat) :
    of offset data = ⟨[], some (.shortPacket (offset + Packet.headerSize) expected actual)⟩ := by
  rw [of, collect, if_neg (by simpa using something)]
  split <;> simp_all

/-- What is found of a packet that is cut off depends on nothing but lengths. -/
theorem of_take_bytes {packet : Packet} (fits : packet.Fits) {size : Nat} (short : size < packet.encodedLength)
    (offset : Nat) :
    of offset (packet.bytes.take size) = ⟨[],
      if size = 0 then none
      else if size < Packet.headerSize then some (.shortPacketHeader offset)
      else some (.shortPacket (offset + Packet.headerSize) packet.content.length (size - Packet.headerSize))⟩ := by
  match size, short with
  | 0, _ => exact of_nil offset
  | 1, _ => exact of_shortHeader (List.cons_ne_nil _ _) rfl offset
  | 2, _ => exact of_shortHeader (List.cons_ne_nil _ _) rfl offset
  | 3, _ => exact of_shortHeader (List.cons_ne_nil _ _) rfl offset
  | left + 4, short =>
    have few : left < packet.content.length := by
      rw [Packet.encodedLength, Packet.headerSize] at short
      omega
    have bound : packet.content.length < 16777216 := by
      rw [Packet.Fits, max24] at fits
      omega
    have spelled := ofBe24_be24 bound
    have length : (packet.content.take left).length = left := by
      rw [List.length_take]
      omega
    have nothing : (packet.content.take left).drop packet.content.length = [] :=
      List.drop_eq_nil_of_le (by omega)
    have taken : packet.bytes.take (left + 4) = packet.type.code :: (packet.content.length / 65536).toUInt8 ::
      (packet.content.length / 256).toUInt8 :: packet.content.length.toUInt8 :: packet.content.take left := rfl
    have front : Front.of (packet.bytes.take (left + 4)) = .shortContent packet.content.length left := by
      rw [taken, Front.of, spelled, nothing, length, if_neg (by simp), if_neg (by omega)]
    rw [of_shortContent (taken ▸ List.cons_ne_nil _ _) front]
    rfl

/-- Rows of packets of the same types and lengths that are cut at the same place give packets of the same types, and
the same damage. -/
theorem of_take {packets others : List Packet} (alike : List.Forall₂ Packet.Alike packets others)
    (fits : ∀ packet ∈ packets, packet.Fits) (offset size : Nat) :
    (of offset ((Packet.joined packets).take size)).damage = (of offset ((Packet.joined others).take size)).damage ∧
      (of offset ((Packet.joined packets).take size)).packets.map Packet.type =
        (of offset ((Packet.joined others).take size)).packets.map Packet.type := by
  induction alike generalizing offset size with
  | nil => exact ⟨rfl, rfl⟩
  | @cons packet other rest behind same _ ih =>
    obtain ⟨types, lengths⟩ := same
    have packetFits : packet.Fits := fits packet List.mem_cons_self
    have restFits : ∀ packet ∈ rest, packet.Fits := fun packet member => fits packet (List.mem_cons_of_mem _ member)
    have otherFits : other.Fits := by
      rw [Packet.Fits, ← lengths]
      exact packetFits
    have sizes : packet.encodedLength = other.encodedLength := by
      rw [Packet.encodedLength, Packet.encodedLength, lengths]
    rw [Packet.joined_cons, Packet.joined_cons]
    -- The cut falls behind the first packet, or within it.
    by_cases whole : packet.encodedLength ≤ size
    · obtain ⟨left, rfl⟩ := Nat.exists_eq_add_of_le whole
      have cut : (packet.bytes ++ Packet.joined rest).take (packet.encodedLength + left) =
          packet.bytes ++ (Packet.joined rest).take left := by
        rw [← Packet.length_bytes, List.take_length_add_append]
      have cut' : (other.bytes ++ Packet.joined behind).take (packet.encodedLength + left) =
          other.bytes ++ (Packet.joined behind).take left := by
        rw [sizes, ← Packet.length_bytes, List.take_length_add_append]
      obtain ⟨damage, others⟩ := ih restFits (offset + packet.encodedLength) left
      rw [cut, cut', of_bytes_append packetFits, of_bytes_append otherFits, ← sizes, List.map_cons, List.map_cons,
        types, others]
      exact ⟨damage, rfl⟩
    · have short : size < packet.encodedLength := Nat.lt_of_not_le whole
      have cut : (packet.bytes ++ Packet.joined rest).take size = packet.bytes.take size :=
        List.take_append_of_le_length (by rw [Packet.length_bytes]; omega)
      have cut' : (other.bytes ++ Packet.joined behind).take size = other.bytes.take size :=
        List.take_append_of_le_length (by rw [Packet.length_bytes]; omega)
      rw [cut, cut', of_take_bytes packetFits short, of_take_bytes otherFits (sizes ▸ short), lengths]
      exact ⟨rfl, rfl⟩

end Reading

open Outcome (Agree)

/-- Two containers of packets of the same types and lengths, cut at the same place, are found damaged in the same way,
or to have packets of the same types. -/
theorem Container.parse_take {container other : Container}
    (alike : List.Forall₂ Packet.Alike container.packets other.packets)
    (fits : ∀ packet ∈ container.packets, packet.Fits) (size : Nat) :
    Agree (fun found found' => found.packets.map Packet.type = found'.packets.map Packet.type)
      ((parse (container.bytes.take size)).mapError Incomplete.damage)
      ((parse (other.bytes.take size)).mapError Incomplete.damage) := by
  match size with
  | 0 | 1 | 2 | 3 => exact .error _
  | left + 4 =>
    have opening : ∀ container : Container, parse (container.bytes.take (left + 4)) =
        ((Reading.of Header.size ((Packet.joined container.packets).take left)).complete
          (some container.header)).map (⟨container.header, ·⟩) := fun _ => rfl
    obtain ⟨damage, types⟩ := Reading.of_take alike fits Header.size left
    rw [opening, opening, Reading.complete, Reading.complete, damage]
    split
    · exact .ok types
    · exact .error _

namespace Ring

variable {ring : Ring} {accessKey data cut : Bytes}

/-- What a container lacks is seen from the types of its packets. -/
theorem content?_eq_none_of_types {packets others : List Packet}
    (types : packets.map Packet.type = others.map Packet.type) (type : PacketType) :
    content? type packets = none ↔ content? type others = none := by
  have absent : ∀ packets, content? type packets = none ↔ type ∉ packets.map Packet.type := by
    intro packets
    rw [content?, Option.map_eq_none_iff, List.find?_eq_none, List.mem_map]
    simp only [decide_eq_true_eq, not_exists, not_and]
  rw [absent, absent, types]

section Cut

/-- A plain ring's file that is cut off behind a packet lacks the data key, or else the bundle. -/
theorem Encoded.read_of_parsed {found : Container} (encoded : ring.Encoded data) (formed : ring.WellFormed accessKey)
    (plain : ring.Plain) (front : cut <+: data) (shorter : cut ≠ data) (parsed : Container.parse cut = .ok found)
    (credential : Credential) (world : World) :
    read (.ofBytes cut) credential world =
      .error (.error (.missing (if content? .dataKey found.packets = none then .dataKey else .bundle))) world := by
  obtain ⟨sealedBundle, wholeParsed, holds, -⟩ := encoded.opened formed plain
  obtain ⟨rfl, wholeFits⟩ := Container.parse_eq_ok_iff.mp wholeParsed
  obtain ⟨rfl, foundFits⟩ := Container.parse_eq_ok_iff.mp parsed
  obtain ⟨header, packets⟩ := Container.prefix_of_bytes foundFits wholeFits front
  have noBundle : content? .bundle found.packets = none := by
    rcases prefix_packets packets with none | ⟨count, few, kept⟩
    · exact none
    · refine absurd ?_ shorter
      have all : count = ring.extras.length := by
        rw [plain.1] at few ⊢
        exact Nat.le_zero.mp few
      have same : found = ring.container sealedBundle := by
        rw [keeping, all, List.take_length] at kept
        cases found
        exact congrArg₂ Container.mk header kept
      rw [same]
  have few : ∀ role, role ≠ .unknown → found.packets.countP (·.type.role = role) ≤ allowance [] role :=
    fun role known => packets.sublist.countP_le.trans ((holds_iff.mp holds).2.1 role known)
  have known : ∀ packet ∈ found.packets, packet.type.role ≠ .unknown :=
    fun packet member => plain.known_container sealedBundle packet (packets.subset member)
  have contents := Source.contents_ofBytes found.bytes
  have passed := inspect_of_known known few world
  exact read_of_missing contents parsed (header.trans formed.header) passed (.inr noBundle) credential

theorem Encoded.alike {twin : Ring} {accessKey' data' : Bytes} (alike : ring.outline = twin.outline)
    (encoded : ring.Encoded data) (formed : ring.WellFormed accessKey) (plain : ring.Plain)
    (twinEncoded : twin.Encoded data') (twinFormed : twin.WellFormed accessKey') (twinPlain : twin.Plain)
    (sizes : SameLength data data') :
    ∃ container other : Container, Container.parse data = .ok container ∧ Container.parse data' = .ok other ∧
      List.Forall₂ Packet.Alike container.packets other.packets := by
  obtain ⟨sealedBundle, parsed, -⟩ := encoded.opened formed plain
  obtain ⟨sealedBundle', parsed', -⟩ := twinEncoded.opened twinFormed twinPlain
  have salts := salt_of_outline alike
  have wrappedKeys := wrappedKey_of_outline alike
  have packets : ∀ (ring : Ring) (sealedBundle : Bytes), ring.Plain → (ring.container sealedBundle).packets =
      [⟨.salt, ring.salt⟩, ⟨.dataKey, ring.wrappedKey⟩, ⟨.bundle, sealedBundle⟩] := by
    intro ring sealedBundle plain
    rw [container, plain.1]
  have length : ∀ (ring : Ring) (sealedBundle data : Bytes), ring.Plain →
      Container.parse data = .ok (ring.container sealedBundle) →
      data.length = 16 + ring.salt.length + ring.wrappedKey.length + sealedBundle.length := by
    intro ring sealedBundle data plain parsed
    rw [(Container.parse_eq_ok_iff.mp parsed).1, Container.bytes, packets ring sealedBundle plain]
    simp only [List.length_append, Header.length_bytes, Packet.length_joined_cons, Packet.encodedLength,
      Packet.headerSize, Header.size, Packet.joined_nil, List.length_nil]
    omega
  have bundles : SameLength sealedBundle sealedBundle' := by
    have first := length ring sealedBundle data plain parsed
    have second := length twin sealedBundle' data' twinPlain parsed'
    rw [sizes, second, salts, wrappedKeys] at first
    exact (Nat.add_left_cancel first).symm
  refine ⟨_, _, parsed, parsed', ?_⟩
  rw [packets ring sealedBundle plain, packets twin sealedBundle' twinPlain, salts]
  exact .cons ⟨rfl, rfl⟩ (.cons ⟨rfl, wrappedKeys⟩ (.cons ⟨rfl, bundles⟩ .nil))

/-- The files of two rings of one outline, cut off at the same place, are found damaged in the same way. -/
theorem Encoded.read_cut {twin : Ring} {accessKey' data' cut' : Bytes} (alike : ring.outline = twin.outline)
    (encoded : ring.Encoded data) (formed : ring.WellFormed accessKey) (plain : ring.Plain)
    (twinEncoded : twin.Encoded data') (twinFormed : twin.WellFormed accessKey') (twinPlain : twin.Plain)
    (sizes : SameLength data data') (front : cut <+: data) (front' : cut' <+: data') (cuts : SameLength cut cut')
    (shorter : cut ≠ data) :
    ∃ cause, (∀ credential world, read (.ofBytes cut) credential world = .error (.error cause) world) ∧
      ∀ credential world, read (.ofBytes cut') credential world = .error (.error cause) world := by
  obtain ⟨container, other, parsed, parsed', packets⟩ :=
    encoded.alike alike formed plain twinEncoded twinFormed twinPlain sizes
  obtain ⟨whole, fits⟩ := Container.parse_eq_ok_iff.mp parsed
  obtain ⟨whole', -⟩ := Container.parse_eq_ok_iff.mp parsed'
  have shorter' : cut' ≠ data' := by
    rintro rfl
    exact shorter (front.eq_of_length (cuts.trans sizes.symm))
  have agree := Container.parse_take packets fits cut.length
  rw [← whole, ← whole', ← List.prefix_iff_eq_take.mp front, cuts, ← List.prefix_iff_eq_take.mp front'] at agree
  cases first : Container.parse cut with
  | error stopped =>
    cases second : Container.parse cut' with
    | error stopped' =>
      rw [first, second] at agree
      have same : stopped.damage = stopped'.damage := agree.error_inj
      refine ⟨_, read_of_incomplete (Source.contents_ofBytes cut) first, ?_⟩
      rw [same]
      exact read_of_incomplete (Source.contents_ofBytes cut') second
    | ok found' =>
      rw [first, second] at agree
      cases agree
  | ok found =>
    cases second : Container.parse cut' with
    | error stopped' =>
      rw [first, second] at agree
      cases agree
    | ok found' =>
      rw [first, second] at agree
      obtain ⟨types⟩ := agree
      refine ⟨_, encoded.read_of_parsed formed plain front shorter first, ?_⟩
      rw [if_congr (content?_eq_none_of_types types .dataKey) rfl rfl]
      exact twinEncoded.read_of_parsed twinFormed twinPlain front' shorter' second

end Cut

end Ring

end Keyring
