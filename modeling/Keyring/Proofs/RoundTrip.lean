import Keyring.Proofs.Course

namespace Keyring

@[simp]
theorem Source.contents_ofBytes (data : Bytes) : (ofBytes data).contents = .ok data := by
  cases data <;> rfl

namespace Ring

section Written

variable {ring : Ring} {accessKey data : Bytes}

theorem filter_unknown {packets : List Packet} (unknown : ∀ packet ∈ packets, packet.type.role = .unknown)
    (role : Role) (type : PacketType) (defined : role.type? = some type) : packets.filter (·.type = type) = [] := by
  refine List.filter_eq_nil_iff.mpr ?_
  intro packet member
  have other := PacketType.role_eq_unknown_iff.mp (unknown packet member) role type defined
  simpa using other

theorem container_holds (formed : ring.WellFormed accessKey) (sealedBundle : Bytes) :
    (ring.container sealedBundle).Holds ring.salt ring.wrappedKey sealedBundle := by
  have unknown : ∀ packet ∈ ring.extras, packet.type.role = .unknown :=
    fun packet member => (formed.extras packet member).1
  have dataKeys := filter_unknown unknown .dataKey _ rfl
  have bundles := filter_unknown unknown .bundle _ rfl
  have salts := filter_unknown unknown .salt _ rfl
  refine ⟨formed.header, ?_, ?_, ?_, Or.inl ?_⟩
  · intro packet member
    simp only [container, List.mem_cons] at member
    rcases member with rfl | rfl | rfl | extra
    · exact ⟨(by decide : PacketType.salt ≠ .entry), (by decide : PacketType.salt ≠ .active)⟩
    · exact ⟨(by decide : PacketType.dataKey ≠ .entry), (by decide : PacketType.dataKey ≠ .active)⟩
    · exact ⟨(by decide : PacketType.bundle ≠ .entry), (by decide : PacketType.bundle ≠ .active)⟩
    · have other := PacketType.role_eq_unknown_iff.mp (unknown packet extra)
      exact ⟨other .entry _ rfl, other .active _ rfl⟩
  · simpa [container, List.filter_cons, PacketType.dataKey, PacketType.salt, PacketType.bundle] using dataKeys
  · simpa [container, List.filter_cons, PacketType.dataKey, PacketType.salt, PacketType.bundle] using bundles
  · simpa [container, List.filter_cons, PacketType.dataKey, PacketType.salt, PacketType.bundle] using salts

theorem unknownAmong_container (formed : ring.WellFormed accessKey) (sealedBundle : Bytes) :
    Bundle.unknownAmong (ring.container sealedBundle).packets = ring.extras := by
  have all : Bundle.unknownAmong ring.extras = ring.extras :=
    List.filter_eq_self.mpr fun packet member => by simp [formed.extras packet member]
  exact all

/-- What is written are the bytes of a container whose bundle opens to the bytes of the inner packets. -/
theorem opens_of_encode {world later : World} (encoded : ring.encode world = .ok data later) :
    ∃ sealedBundle, Container.parse data = .ok (ring.container sealedBundle) ∧
      Sealing.openWith ring.dataKey.bytes sealedBundle [] = .ok (Packet.joined ring.bundle.packets) ∧
      Packet.parseAll 0 (Packet.joined ring.bundle.packets) = .ok ring.bundle.packets := by
  obtain ⟨innerFits, _, sealedBundle, bundleSealed, outerFits, rfl⟩ := (encode_eq_ok_iff world).mp ⟨later, encoded⟩
  have opens := Sealing.openWith_eq_ok_iff.mpr ⟨_, Supply.length_segment _ _ _, bundleSealed⟩
  exact ⟨sealedBundle, Container.parse_eq_ok_iff.mpr ⟨rfl, outerFits⟩, opens,
    Packet.parseAll_eq_ok_iff.mpr ⟨rfl, innerFits⟩⟩

/-- The layers that a ring is written as around its sealed bundle. -/
def layers (ring : Ring) (sealedBundle : Bytes) : Layers where
  container := ring.container sealedBundle
  salt := ring.salt
  wrappedKey := ring.wrappedKey
  sealedBundle := sealedBundle
  dataKey := ring.dataKey.bytes
  plain := Packet.joined ring.bundle.packets
  inner := ring.bundle.packets
  bundle := ring.bundle

theorem ring_layers (formed : ring.WellFormed accessKey) (sealedBundle : Bytes) :
    (ring.layers sealedBundle).ring = ring := by
  calc (ring.layers sealedBundle).ring
      = { ring with
          maxId := ring.view.keys.maxId
          extras := Bundle.unknownAmong (ring.container sealedBundle).packets } := rfl
    _ = ring := by rw [unknownAmong_container formed, ← formed.maxId]

/-- A written ring can be opened layer by layer. -/
theorem layers_of_encode {world later : World} {credential : Credential}
    (formed : ring.WellFormed (credential.key ring.salt)) (encoded : ring.encode world = .ok data later) :
    ∃ sealedBundle, Layers.Of (ring.layers sealedBundle) data credential := by
  obtain ⟨sealedBundle, parsed, bundleOpens, innerParsed⟩ := opens_of_encode encoded
  have unknown : ∀ packet ∈ ring.bundle.extras, packet.type.role = .unknown :=
    fun packet member => (formed.bundleExtras packet member).1
  have described : Bundle.Describes ring.bundle.packets ring.bundle :=
    Bundle.describes_packets formed.ascending formed.nonzero unknown
  have accessKeyFits := (Sealing.eq_envelope_of_openWith formed.opens).1
  exact ⟨sealedBundle, parsed, container_holds formed sealedBundle, accessKeyFits, formed.opens, formed.dataKeyFits,
    bundleOpens, innerParsed, described⟩

/-- A ring can be written if three bytes can spell the lengths of its keys, its salt and its sealed bundle. -/
theorem encode_succeeds_iff (formed : ring.WellFormed accessKey) (world : World) :
    (∃ data later, ring.encode world = .ok data later) ↔
      (∀ packet ∈ ring.bundle.packets, packet.Fits) ∧ world.supply.Has Sealing.nonceLength ∧
        ring.salt.length ≤ max24 ∧ Sealing.sealedLength (Packet.joined ring.bundle.packets).length ≤ max24 := by
  have dataKeyOpens := Sealing.length_of_openWith formed.opens
  rw [formed.dataKeyFits] at dataKeyOpens
  have outerFits : ∀ sealedBundle, (∀ packet ∈ (ring.container sealedBundle).packets, packet.Fits) ↔
      ring.salt.length ≤ max24 ∧ sealedBundle.length ≤ max24 := by
    intro sealedBundle
    have wrappedKeyFits : ring.wrappedKey.length ≤ max24 := by
      rw [dataKeyOpens]
      decide
    have extrasFit : ∀ packet ∈ ring.extras, packet.content.length ≤ max24 :=
      fun packet member => (formed.extras packet member).2
    simp only [container, List.mem_cons, forall_eq_or_imp, Packet.Fits, wrappedKeyFits, true_and]
    exact ⟨fun fits => ⟨fits.1, fits.2.1⟩, fun fits => ⟨fits.1, fits.2, extrasFit⟩⟩
  simp only [encode_eq_ok_iff, outerFits]
  constructor
  · intro finished
    obtain ⟨_, innerFits, enough, sealedBundle, bundleSealed, ⟨saltFits, bundleFits⟩, _⟩ := finished
    have size := Sealing.length_of_openWith
      (Sealing.openWith_eq_ok_iff.mpr ⟨_, Supply.length_segment _ _ _, bundleSealed⟩)
    exact ⟨innerFits, enough, saltFits, by rwa [← size]⟩
  · intro given
    obtain ⟨innerFits, enough, saltFits, bundleFits⟩ := given
    have within : Sealing.withinCounter (Packet.joined ring.bundle.packets) = true := by
      simp only [Sealing.sealedLength, Sealing.nonceLength, Sealing.tagLength, max24] at bundleFits
      simp only [Sealing.withinCounter, decide_eq_true_eq]
      omega
    refine ⟨_, innerFits, enough, _, Sealing.sealWith_envelope _ _ formed.dataKeyFits within, ⟨saltFits, ?_⟩, rfl⟩
    rw [Sealing.length_envelope, Supply.length_segment]
    exact bundleFits

end Written

/-- Reading gives back whatever was written, whole, in every world and with every credential that has the access
key of the ring. -/
theorem read_write {start ring : Ring} {changes : List Change} {accessKey data : Bytes} {count : Nat}
    {credential : Credential} {source : Source} {sink : Sink} {world later : World}
    (origin : Origin start accessKey) (course : Course start changes ring)
    (unlocks : credential.key ring.salt = changes.foldl Change.accessKey accessKey)
    (written : ring.write sink world = .ok ⟨data, .ok count⟩ later) (contents : source.contents = .ok data)
    (begun : World) : ∃ ended, read source credential begun = .ok ring ended := by
  have formed := course.wellFormed origin.wellFormed
  rw [← unlocks] at formed
  obtain ⟨_, encoded⟩ := encode_of_write written
  obtain ⟨sealedBundle, opened⟩ := layers_of_encode formed encoded
  exact (read_eq_ok_iff begun).mpr
    ⟨data, ring.layers sealedBundle, contents, opened, (ring_layers formed sealedBundle).symm⟩

theorem sampleLater_encode : ∃ data later, sampleLater.encode (worldFrom []) = .ok data later :=
  (encode_succeeds_iff (sample_course.wellFormed sample_origin.wellFormed) (worldFrom [])).mpr
    ⟨by decide, ⟨by decide, by simp [worldFrom]⟩, by decide, by decide⟩

theorem read_write_sampleLater :
    ∃ data later, sampleLater.write .boundless (worldFrom []) = .ok ⟨data, .ok data.length⟩ later ∧
      ∃ ended, read (.ofBytes data) (.fixed ⟨List.replicate 32 2⟩) (worldFrom []) = .ok sampleLater ended := by
  obtain ⟨data, encoded⟩ := sampleLater_encode
  obtain ⟨later, written⟩ := (write_eq_ok_iff (worldFrom [])).mpr ⟨data, encoded, rfl⟩
  exact ⟨data, later, written,
    read_write sample_origin sample_course rfl written (Source.contents_ofBytes data) (worldFrom [])⟩

end Ring

end Keyring
