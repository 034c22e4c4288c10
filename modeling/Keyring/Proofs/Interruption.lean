import Keyring.Proofs.CarryThrough
import Keyring.Proofs.Rekeying

namespace Keyring

section Framing

/-- Packets at the front are read off whatever stands behind them, and that is read as it would be on its own. -/
theorem Reading.of_joined_append {front : List Packet} (fits : ∀ packet ∈ front, packet.Fits) (offset : Nat)
    (rest : Bytes) :
    of offset (Packet.joined front ++ rest) =
      ⟨front ++ (of (offset + (Packet.joined front).length) rest).packets,
        (of (offset + (Packet.joined front).length) rest).damage⟩ := by
  induction front generalizing offset with
  | nil => rfl
  | cons packet others ih =>
    have othersFit : ∀ other ∈ others, other.Fits := fun other member => fits other (List.mem_cons_of_mem _ member)
    rw [Packet.joined_cons, List.append_assoc, of_bytes_append (fits packet List.mem_cons_self), ih othersFit,
      List.length_append, Packet.length_bytes, ← Nat.add_assoc]
    rfl

/-- Where one row of packets is cut into another, the cut falls between two packets. -/
theorem Packet.prefix_of_joined {front whole : List Packet} (frontFits : ∀ packet ∈ front, packet.Fits)
    (wholeFits : ∀ packet ∈ whole, packet.Fits) (cut : joined front <+: joined whole) : front <+: whole := by
  obtain ⟨rest, same⟩ := cut
  have read := Reading.of_joined_append frontFits 0 rest
  rw [same, Reading.of_joined wholeFits] at read
  exact ⟨_, (Reading.mk.inj read).1.symm⟩

theorem Container.prefix_of_bytes {front whole : Container} (frontFits : ∀ packet ∈ front.packets, packet.Fits)
    (wholeFits : ∀ packet ∈ whole.packets, packet.Fits) (cut : front.bytes <+: whole.bytes) :
    front.header = whole.header ∧ front.packets <+: whole.packets := by
  obtain ⟨rest, same⟩ := cut
  have opening : Header.parse whole.bytes = .ok whole.header := Header.parse_bytes_append _ _
  have header : Header.parse (front.bytes ++ rest) = .ok front.header := by
    rw [bytes, List.append_assoc]
    exact Header.parse_bytes_append _ _
  rw [same, opening] at header
  have sameHeader : front.header = whole.header := (Except.ok.inj header).symm
  rw [bytes, bytes, sameHeader, List.append_assoc] at same
  exact ⟨sameHeader, Packet.prefix_of_joined frontFits wholeFits ⟨rest, List.append_cancel_left same⟩⟩

end Framing

namespace Ring

/-- Bytes that no one can read as a keyring. They are found damaged, whatever the credential. -/
def Unreadable (data : Bytes) : Prop :=
  ∀ source : Source, source.contents = .ok data → ∀ credential begun, ∃ cause ended,
    read source credential begun = .error (.error cause) ended ∧ cause.isCorruption = true

section Damage

variable {data : Bytes} {container : Container}

theorem read_of_incomplete {source : Source} (contents : source.contents = .ok data) {stopped : Incomplete}
    (damaged : Container.parse data = .error stopped) (credential : Credential) (begun : World) :
    read source credential begun = .error (.error (.malformed stopped.damage)) begun := by
  have stops : parseSupported data begun = .error (.error (.malformed stopped.damage)) begun := by
    rw [parseSupported, damaged]
    rfl
  rw [read, Action.bind_of_ok (bytes_of_contents contents begun), Action.bind_of_error stops]

theorem unreadable_of_incomplete {stopped : Incomplete} (damaged : Container.parse data = .error stopped) :
    Unreadable data :=
  fun _ contents credential begun => ⟨_, begun, read_of_incomplete contents damaged credential begun, rfl⟩

/-- Of what a container lacks, the data key is told first. -/
theorem read_of_missing {source : Source} (contents : source.contents = .ok data)
    (parsed : Container.parse data = .ok container) (header : container.header = .current) {begun inspected : World}
    (passed : inspect [] container.packets begun = .ok () inspected)
    (missing : content? .dataKey container.packets = none ∨ content? .bundle container.packets = none)
    (credential : Credential) :
    read source credential begun =
      .error (.error (.missing (if content? .dataKey container.packets = none then .dataKey else .bundle)))
        inspected := by
  have given := bytes_of_contents contents begun
  have supported : parseSupported data begun = .ok container begun := parseSupported_eq_ok.mpr ⟨parsed, header, rfl⟩
  have absent : ∀ type, content? type container.packets = none →
      required type container.packets inspected = .error (.error (.missing type)) inspected := by
    intro type none
    rw [required, none]
    rfl
  rw [read, Action.bind_of_ok given, Action.bind_of_ok supported, Action.bind_of_ok passed]
  by_cases noKey : content? .dataKey container.packets = none
  · rw [Action.bind_of_error (absent .dataKey noKey), if_pos noKey]
  · obtain ⟨wrappedKey, wrapped⟩ := Option.ne_none_iff_exists'.mp noKey
    have found : required .dataKey container.packets inspected = .ok wrappedKey inspected :=
      required_eq_ok.mpr ⟨wrapped, rfl⟩
    have noBundle := missing.resolve_left noKey
    rw [Action.bind_of_ok found, Action.bind_of_error (absent .bundle noBundle), if_neg noKey]

/-- A container without its data key or its bundle is no keyring. -/
theorem unreadable_of_missing (parsed : Container.parse data = .ok container) (header : container.header = .current)
    (few : ∀ role, role ≠ .unknown → container.packets.countP (·.type.role = role) ≤ allowance [] role)
    (missing : content? .dataKey container.packets = none ∨ content? .bundle container.packets = none) :
    Unreadable data := by
  intro source contents credential begun
  obtain ⟨inspected, passed⟩ := (inspect_eq_ok_iff begun).mpr few
  exact ⟨_, inspected, read_of_missing contents parsed header passed missing credential, rfl⟩

end Damage

/-- The ring without the unknown packets of its container from a number on. -/
def keeping (ring : Ring) (count : Nat) : Ring :=
  { ring with extras := ring.extras.take count }

section Cutting

variable {ring : Ring} {accessKey data cut : Bytes} {world later : World}

theorem WellFormed.keeping (formed : ring.WellFormed accessKey) (count : Nat) :
    (ring.keeping count).WellFormed accessKey :=
  { formed with extras := fun packet member => formed.extras packet (List.mem_of_mem_take member) }

/-- A cut in front of the end of the bundle leaves no bundle. A later one leaves a container of the ring that lacks
some of the unknown packets. -/
theorem prefix_packets {front : List Packet} {sealedBundle : Bytes}
    (cut : front <+: (ring.container sealedBundle).packets) :
    content? .bundle front = none ∨
      ∃ count ≤ ring.extras.length, front = ((ring.keeping count).container sealedBundle).packets := by
  -- The salt, the data key and the bundle come first, so the cut lies among these three or behind them.
  simp only [container, List.prefix_cons_iff] at cut
  rcases cut with rfl | ⟨_, rfl, rfl | ⟨_, rfl, rfl | ⟨behind, rfl, extras⟩⟩⟩
  · exact .inl rfl
  · exact .inl rfl
  · exact .inl rfl
  · refine .inr ⟨behind.length, extras.length_le, ?_⟩
    rw [keeping, container, ← List.prefix_iff_eq_take.mp extras]

/-- The ring without some unknown packets is written to the same bytes without those packets. -/
theorem encode_keeping {sealedBundle : Bytes} (count : Nat) (encoded : ring.encode world = .ok data later)
    (parsed : Container.parse data = .ok (ring.container sealedBundle)) :
    ∃ ended, (ring.keeping count).encode world =
      .ok ((ring.keeping count).container sealedBundle).bytes ended := by
  obtain ⟨innerFits, enough, found, bundleSealed, outerFits, rfl⟩ := (encode_eq_ok_iff world).mp ⟨later, encoded⟩
  have same : ring.container found = ring.container sealedBundle :=
    Except.ok.inj ((Container.parse_eq_ok_iff.mpr ⟨rfl, outerFits⟩).symm.trans parsed)
  obtain rfl : found = sealedBundle := by simpa [container] using same
  -- The unknown packets of the container are not sealed, so the same supply gives the same bundle.
  refine (encode_eq_ok_iff world).mpr ⟨innerFits, enough, found, bundleSealed, ?_, rfl⟩
  intro packet member
  refine outerFits packet ?_
  simp only [container, keeping, List.mem_cons] at member ⊢
  exact member.imp_right (Or.imp_right (Or.imp_right List.mem_of_mem_take))

/-- A cut-off file of a ring is no keyring, or it is the whole file of the ring without its last unknown packets. -/
theorem encode_cut (formed : ring.WellFormed accessKey) (encoded : ring.encode world = .ok data later)
    (front : cut <+: data) (shorter : cut ≠ data) :
    Unreadable cut ∨ ∃ count < ring.extras.length, (ring.keeping count).Writes cut := by
  obtain ⟨sealedBundle, parsed, -, -⟩ := opens_of_encode encoded
  obtain ⟨whole, wholeFits⟩ := Container.parse_eq_ok_iff.mp parsed
  cases parsedCut : Container.parse cut with
  | error stopped => exact .inl (unreadable_of_incomplete parsedCut)
  | ok found =>
    obtain ⟨rfl, foundFits⟩ := Container.parse_eq_ok_iff.mp parsedCut
    rw [whole] at front shorter
    obtain ⟨header, packets⟩ := Container.prefix_of_bytes foundFits wholeFits front
    rcases prefix_packets packets with noBundle | ⟨count, few, kept⟩
    · obtain ⟨-, fewWhole, -⟩ := holds_iff.mp (container_holds formed sealedBundle)
      have fewCut : ∀ role, role ≠ .unknown →
          found.packets.countP (·.type.role = role) ≤ allowance [] role :=
        fun role known => packets.sublist.countP_le.trans (fewWhole role known)
      exact .inl (unreadable_of_missing parsedCut (header.trans formed.header) fewCut (.inr noBundle))
    · have same : found = (ring.keeping count).container sealedBundle := by
        cases found
        exact congrArg₂ Container.mk header kept
      refine .inr ⟨count, ?_, ?_⟩
      · -- With all unknown packets kept, nothing would have been cut off.
        refine few.lt_of_ne ?_
        rintro rfl
        refine shorter ?_
        rw [same, keeping, List.take_length]
      · obtain ⟨_, again⟩ := encode_keeping count encoded parsed
        obtain ⟨ended, written⟩ := (write_eq_ok_iff world).mpr ⟨_, ⟨_, again⟩, rfl⟩
        rw [same]
        exact ⟨.boundless, _, world, ended, written⟩

/-- Behind the bundle, every end of a packet is such a cut. -/
theorem encode_cut_of_lt {count : Nat} (encoded : ring.encode world = .ok data later)
    (few : count < ring.extras.length) :
    ∃ cut, cut <+: data ∧ cut ≠ data ∧ (ring.keeping count).Writes cut := by
  obtain ⟨sealedBundle, parsed, -, -⟩ := opens_of_encode encoded
  obtain ⟨_, again⟩ := encode_keeping count encoded parsed
  obtain ⟨ended, written⟩ := (write_eq_ok_iff world).mpr ⟨_, ⟨_, again⟩, rfl⟩
  have packets : (ring.container sealedBundle).packets =
      ((ring.keeping count).container sealedBundle).packets ++ ring.extras.drop count := by
    simp [container, keeping]
  have split : data =
      ((ring.keeping count).container sealedBundle).bytes ++ Packet.joined (ring.extras.drop count) := by
    rw [(Container.parse_eq_ok_iff.mp parsed).1, Container.bytes, packets, Packet.joined_append, ← List.append_assoc]
    rfl
  refine ⟨_, ⟨_, split.symm⟩, ?_, .boundless, _, world, ended, written⟩
  intro same
  have nothing : Packet.joined (ring.extras.drop count) = [] :=
    List.append_right_eq_self.mp (split.symm.trans same.symm)
  have size := congrArg List.length nothing
  rw [List.drop_eq_getElem_cons few, Packet.length_joined_cons] at size
  simp only [Packet.encodedLength, Packet.headerSize, List.length_nil] at size
  omega

end Cutting

/-- What a sink took is all of the file, or the front of it and less than the whole. -/
theorem write_received {ring : Ring} {sink : Sink} {received : Bytes} {outcome : Except IoFailure Nat}
    {world later : World} (written : ring.write sink world = .ok ⟨received, outcome⟩ later) :
    ∃ data, (∃ encoded, ring.encode world = .ok data encoded) ∧ received <+: data ∧
      (received = data → ∃ count, outcome = .ok count) := by
  obtain ⟨data, encoded, same⟩ := (write_eq_ok_iff world).mp ⟨later, written⟩
  obtain ⟨rfl, rfl⟩ := Delivery.mk.inj same
  refine ⟨data, encoded, sink.take_prefix data, ?_⟩
  unfold Sink.take
  cases sink.room with
  | none => exact fun _ => ⟨_, rfl⟩
  | some room =>
    refine fun whole => ⟨data.length, ?_⟩
    have enough : ¬ room < data.length := by
      have size := congrArg List.length whole
      simp only [List.length_take] at size
      omega
    simp only [enough, if_false]
    rfl

/-- An interrupted write leaves no keyring. The one exception is a cut at the end of a packet behind which only unknown
packets would have come. The file is then the whole file of the ring without those, and is read as that ring. -/
theorem interrupted_write {start ring : Ring} {changes : List Change} {accessKey received cut : Bytes}
    {outcome : Except IoFailure Nat} {sink : Sink} {world later : World} (origin : Origin start accessKey)
    (course : Course start changes ring) (written : ring.write sink world = .ok ⟨received, outcome⟩ later)
    (front : cut <+: received) (interrupted : cut ≠ received ∨ ∃ failure, outcome = .error failure) :
    Unreadable cut ∨
      ∃ count < ring.extras.length, (ring.keeping count).Writes cut ∧
        ∀ credential : Credential, credential.key ring.salt = changes.foldl Change.accessKey accessKey →
          ReadsAs cut credential (ring.keeping count) := by
  have formed := course.wellFormed origin.wellFormed
  obtain ⟨data, ⟨_, encoded⟩, taken, finished⟩ := write_received written
  have shorter : cut ≠ data := by
    rintro rfl
    have whole := taken.eq_of_length_le front.length_le
    obtain ⟨count, done⟩ := finished whole
    -- A sink that took the whole file has not failed.
    rcases interrupted with apart | ⟨failure, failed⟩
    · exact apart whole.symm
    · cases done.symm.trans failed
  rcases encode_cut formed encoded (front.trans taken) shorter with damaged | ⟨count, few, kept⟩
  · exact .inl damaged
  · refine .inr ⟨count, few, kept, ?_⟩
    intro credential unlocks
    exact kept.reads (unlocks ▸ formed.keeping count)

theorem interrupted_write_sampleLater :
    ∃ received later,
      sampleLater.write ⟨some 100, .tookNothing⟩ (worldFrom []) = .ok ⟨received, .error .tookNothing⟩ later ∧
      received.length = 100 ∧ Unreadable received := by
  obtain ⟨data, _, encoded⟩ := sampleLater_encode
  have long : 100 < data.length := by
    obtain ⟨sealedBundle, parsed, opens, -⟩ := opens_of_encode encoded
    have bundleSize := Sealing.length_of_openWith opens
    have keySize := (sample_course.wellFormed sample_origin.wellFormed).length_wrappedKey
    rw [(Container.parse_eq_ok_iff.mp parsed).1, Container.bytes]
    simp only [List.length_append, Header.length_bytes, container, Packet.length_joined_cons, Packet.encodedLength,
      keySize, bundleSize, Sealing.sealedLength, Sealing.nonceLength, Sealing.tagLength, Packet.headerSize, Header.size,
      dataKeyLength]
    omega
  have taken : Sink.take ⟨some 100, .tookNothing⟩ data = (data.take 100, .error .tookNothing) := by
    simp [Sink.take, long]
  have delivered : ∃ later,
      sampleLater.write ⟨some 100, .tookNothing⟩ (worldFrom []) = .ok ⟨data.take 100, .error .tookNothing⟩ later :=
    (write_eq_ok_iff (worldFrom [])).mpr ⟨data, ⟨_, encoded⟩, by rw [taken]; rfl⟩
  obtain ⟨later, written⟩ := delivered
  refine ⟨data.take 100, later, written, ?_, ?_⟩
  · rw [List.length_take]
    omega
  · rcases interrupted_write sample_origin sample_course written List.prefix_rfl (.inr ⟨_, rfl⟩) with
      damaged | ⟨count, few, _⟩
    · exact damaged
    · exact absurd few (Nat.not_lt_zero count)

/-- The foreign ring carries two unknown packets behind its bundle. Without them, the file is read. -/
theorem interrupted_write_foreign :
    ∃ data later cut ended, Origin foreign.ring (List.replicate 32 1) ∧
      foreign.ring.write .boundless (worldFrom []) = .ok ⟨data, .ok data.length⟩ later ∧ cut <+: data ∧ cut ≠ data ∧
      read (.ofBytes cut) (.fixed ⟨List.replicate 32 1⟩) (worldFrom []) = .ok (foreign.ring.keeping 0) ended := by
  have formed := Layers.wellFormed foreign_opens
  obtain ⟨_, accepted⟩ := (read_eq_ok_iff (worldFrom [])).mpr
    ⟨_, foreign, Source.contents_ofBytes foreign.container.bytes, foreign_opens, rfl⟩
  obtain ⟨data, _, encoded⟩ := (encode_succeeds_iff formed (worldFrom [])).mpr
    ⟨by decide, ⟨by decide, by simp [worldFrom]⟩, by decide, by decide⟩
  have delivered : ∃ later, foreign.ring.write .boundless (worldFrom []) = .ok ⟨data, .ok data.length⟩ later :=
    (write_eq_ok_iff (worldFrom [])).mpr ⟨data, ⟨_, encoded⟩, rfl⟩
  obtain ⟨later, written⟩ := delivered
  have carried : 0 < foreign.ring.extras.length := by decide
  obtain ⟨cut, front, shorter, kept⟩ := encode_cut_of_lt encoded carried
  have reads : ReadsAs cut (.fixed ⟨List.replicate 32 1⟩) (foreign.ring.keeping 0) := kept.reads (formed.keeping 0)
  obtain ⟨ended, found⟩ := reads _ (Source.contents_ofBytes cut) (worldFrom [])
  exact ⟨data, later, cut, ended, .read accepted, written, front, shorter, found⟩

end Ring

end Keyring
