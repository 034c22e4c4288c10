import Keyring.Proofs.Unlocking

namespace Keyring.Ring

/-- Some sink took these bytes of a ring, and they were all that was written. -/
def Writes (ring : Ring) (data : Bytes) : Prop :=
  ∃ sink count world later, ring.write sink world = .ok ⟨data, .ok count⟩ later

/-- Whoever reads the bytes with the credential, in whatever chunks and world, gets the ring. -/
def ReadsAs (data : Bytes) (credential : Credential) (ring : Ring) : Prop :=
  ∀ source : Source, source.contents = .ok data → ∀ begun, ∃ ended, read source credential begun = .ok ring ended

/-- Whoever reads the bytes with the credential fails for the cause. -/
def FailsToRead (data : Bytes) (credential : Credential) (cause : RingError) : Prop :=
  ∀ source : Source, source.contents = .ok data →
    ∀ begun, ∃ ended, read source credential begun = .error (.error cause) ended

variable {ring : Ring} {accessKey data : Bytes}

theorem Writes.reads {credential : Credential} (written : ring.Writes data)
    (formed : ring.WellFormed (credential.key ring.salt)) : ReadsAs data credential ring := by
  intro source contents begun
  obtain ⟨_, _, _, _, written⟩ := written
  obtain ⟨_, encoded⟩ := encode_of_write written
  obtain ⟨sealedBundle, opened⟩ := layers_of_encode formed encoded
  have same := ring_layers formed sealedBundle
  exact (read_eq_ok_iff begun).mpr ⟨data, ring.layers sealedBundle, contents, opened, same.symm⟩

/-- What was written is a container in order. -/
theorem Writes.holds (written : ring.Writes data) (formed : ring.WellFormed accessKey) :
    ∃ container sealedBundle, Container.parse data = .ok container ∧
      container.Holds ring.salt ring.wrappedKey sealedBundle := by
  obtain ⟨_, _, _, _, written⟩ := written
  obtain ⟨_, encoded⟩ := encode_of_write written
  obtain ⟨sealedBundle, parsed, _, _⟩ := opens_of_encode encoded
  exact ⟨_, sealedBundle, parsed, container_holds formed sealedBundle⟩

theorem Writes.fails_of_length {credential : Credential} (written : ring.Writes data)
    (formed : ring.WellFormed accessKey) (short : (credential.key ring.salt).length ≠ Credential.keyLength) :
    FailsToRead data credential (.accessKeyLength (credential.key ring.salt).length) := by
  intro source contents begun
  obtain ⟨container, sealedBundle, parsed, holds⟩ := written.holds formed
  obtain ⟨inspected, same⟩ := read_eq_openLayers contents parsed holds credential begun
  exact ⟨_, same.trans (openLayers_of_length short inspected)⟩

theorem Writes.fails_of_closed {credential : Credential} (written : ring.Writes data)
    (formed : ring.WellFormed accessKey) (fits : (credential.key ring.salt).length = Credential.keyLength)
    (closed : Sealing.openWith (credential.key ring.salt) ring.wrappedKey [] = .error .refused) :
    FailsToRead data credential .refused := by
  intro source contents begun
  obtain ⟨container, sealedBundle, parsed, holds⟩ := written.holds formed
  obtain ⟨inspected, same⟩ := read_eq_openLayers contents parsed holds credential begun
  exact ⟨_, same.trans (openLayers_of_closed fits closed inspected)⟩

theorem hasAccessKey_iff {key : Bytes} :
    ring.hasAccessKey key = true ↔ Sealing.openWith key ring.wrappedKey [] = .ok ring.dataKey.bytes := by
  unfold hasAccessKey
  cases Sealing.openWith key ring.wrappedKey [] <;> simp

theorem hasAccessKey_of_closed {key : Bytes} (closed : ∀ plain, Sealing.openWith key ring.wrappedKey [] ≠ .ok plain) :
    ring.hasAccessKey key = false := by
  rw [Bool.eq_false_iff]
  exact fun has => closed _ (hasAccessKey_iff.mp has)

theorem WellFormed.length_wrappedKey (formed : ring.WellFormed accessKey) :
    ring.wrappedKey.length = Sealing.sealedLength dataKeyLength := by
  rw [Sealing.length_of_openWith formed.opens, formed.dataKeyFits]

/-- The access key matters for nothing but what it opens. -/
theorem WellFormed.under {other : Bytes} (formed : ring.WellFormed accessKey)
    (opens : Sealing.openWith other ring.wrappedKey [] = .ok ring.dataKey.bytes) : ring.WellFormed other :=
  { formed with opens := opens }

/-- The wrapped key of a ring opens under a key of full length, or is refused. -/
theorem WellFormed.refused (formed : ring.WellFormed accessKey) {key : Bytes}
    (fits : key.length = Credential.keyLength) (closed : ∀ plain, Sealing.openWith key ring.wrappedKey [] ≠ .ok plain) :
    Sealing.openWith key ring.wrappedKey [] = .error .refused := by
  have long : Sealing.sealedLength 0 ≤ ring.wrappedKey.length := by
    rw [formed.length_wrappedKey]
    decide
  exact Sealing.openWith_eq_refused fits long closed

/-- Rekeying under a key of full length works out whenever there are bytes for a nonce. -/
theorem WellFormed.rekey (formed : ring.WellFormed accessKey) {key : Bytes} (fits : key.length = Credential.keyLength)
    (salt : Option Bytes) {world : World} (enough : world.supply.Has Sealing.nonceLength) :
    ∃ wrappedKey later,
      ring.rekey key salt world = .ok { ring with wrappedKey := wrappedKey, salt := salt.getD ring.salt } later ∧
        Sealing.openWith key wrappedKey [] = .ok ring.dataKey.bytes := by
  have within := (Sealing.eq_envelope_of_openWith formed.opens).2.1
  have wrapped := Sealing.sealWith_envelope (world.supply.segment world.supply.drawn Sealing.nonceLength) [] fits within
  let message :=
    Sealing.envelope key (world.supply.segment world.supply.drawn Sealing.nonceLength) ring.dataKey.bytes []
  have rekeyed : ∃ later,
      ring.rekey key salt world = .ok { ring with wrappedKey := message, salt := salt.getD ring.salt } later :=
    (rekey_eq_ok_iff world).mpr ⟨enough, message, wrapped, rfl⟩
  obtain ⟨later, rekeyed⟩ := rekeyed
  have opens := Sealing.openWith_eq_ok_iff.mpr ⟨_, Supply.length_segment _ _ _, wrapped⟩
  exact ⟨message, later, rekeyed, opens⟩

/-- A key of another length is refused before anything is done. -/
theorem rekey_of_length {key : Bytes} (short : key.length ≠ Credential.keyLength) (salt : Option Bytes)
    (world : World) :
    ring.rekey key salt world = .error (.error (.accessKeyLength key.length)) world := by
  have refused : checkAccessKey key world = .error (.error (.accessKeyLength key.length)) world := by
    rw [checkAccessKey, if_neg short]
    rfl
  rw [Ring.rekey, Action.bind_of_error refused]

/-- Rekeying changes who can open a keyring and nothing else. Every file can be read with the access key of the time
it was written, and gives the ring of that time, whatever was done to the ring since. With any other key, reading
the file agrees with what the ring says of the key. -/
theorem rekey_changes_access {start : Ring} {changes : List Change} (origin : Origin start accessKey)
    (course : Course start changes ring) :
    (∀ (key : Bytes) (salt : Option Bytes) (world : World), key.length = 32 → world.supply.Has Sealing.nonceLength →
      ∃ wrappedKey later next, ring.rekey key salt world = .ok next later ∧
        next = { ring with wrappedKey := wrappedKey, salt := salt.getD ring.salt } ∧ next.hasAccessKey key = true) ∧
      (∀ (key : Bytes) (salt : Option Bytes) (world : World), key.length ≠ 32 →
        ring.rekey key salt world = .error (.error (.accessKeyLength key.length)) world) ∧
      (∀ (made : List Change) (last : Ring) (old new : Bytes), Course ring made last → ring.Writes old →
        last.Writes new →
          (∀ credential, credential.key ring.salt = changes.foldl Change.accessKey accessKey →
            ReadsAs old credential ring) ∧
          (∀ credential, credential.key last.salt = (changes ++ made).foldl Change.accessKey accessKey →
            ReadsAs new credential last)) ∧
      (∀ key : Bytes, key.length ≠ 32 → ring.hasAccessKey key = false) ∧
      (∀ key : Bytes, key.length = 32 → (∀ plain, Sealing.openWith key ring.wrappedKey [] ≠ .ok plain) →
        ring.hasAccessKey key = false) ∧
      ∀ (key data : Bytes), ring.Writes data →
        (ring.hasAccessKey key = true → ReadsAs data (.fixed ⟨key⟩) ring) ∧
        (key.length ≠ 32 → FailsToRead data (.fixed ⟨key⟩) (.accessKeyLength key.length)) ∧
        (key.length = 32 → (∀ plain, Sealing.openWith key ring.wrappedKey [] ≠ .ok plain) →
          FailsToRead data (.fixed ⟨key⟩) .refused) := by
  have formed := course.wellFormed origin.wellFormed
  refine ⟨?_, ?_, ?_, ?_, ?_, ?_⟩
  · intro key salt world fits enough
    obtain ⟨wrappedKey, later, rekeyed, opens⟩ := formed.rekey fits salt enough
    exact ⟨wrappedKey, later, _, rekeyed, rfl, hasAccessKey_iff.mpr opens⟩
  · exact fun key salt world short => rekey_of_length short salt world
  · intro made last old new further writtenOld writtenNew
    have formedLast := further.wellFormed formed
    rw [← List.foldl_append] at formedLast
    refine ⟨?_, ?_⟩
    · intro credential unlocks
      exact writtenOld.reads (unlocks ▸ formed)
    · intro credential unlocks
      exact writtenNew.reads (unlocks ▸ formedLast)
  · intro key short
    refine hasAccessKey_of_closed fun plain opens => ?_
    rw [Sealing.openWith_keyLength short] at opens
    cases opens
  · exact fun key _ closed => hasAccessKey_of_closed closed
  · intro key data written
    refine ⟨?_, ?_, ?_⟩
    · intro has
      have formedUnder : ring.WellFormed (Credential.key (.fixed ⟨key⟩) ring.salt) :=
        formed.under (hasAccessKey_iff.mp has)
      exact written.reads formedUnder
    · exact fun short => written.fails_of_length formed short
    · exact fun fits closed => written.fails_of_closed formed fits (formed.refused fits closed)

theorem sampleLater_writes : ∃ data, sampleLater.Writes data := by
  obtain ⟨data, encoded⟩ := sampleLater_encode
  obtain ⟨later, written⟩ := (write_eq_ok_iff (worldFrom [])).mpr ⟨data, encoded, rfl⟩
  exact ⟨data, Sink.boundless, data.length, worldFrom [], later, written⟩

/-- The sample has been rekeyed once and is rekeyed again, without a salt. -/
theorem rekey_changes_access_sampleLater :
    ∃ data wrappedKey later next, sampleLater.Writes data ∧
      ReadsAs data (.fixed ⟨List.replicate 32 2⟩) sampleLater ∧ FailsToRead data (.fixed ⟨[1, 2]⟩) (.accessKeyLength 2) ∧
      sampleLater.hasAccessKey [1, 2] = false ∧
      sampleLater.rekey (List.replicate 32 5) none (worldFrom []) = .ok next later ∧
      next = { sampleLater with wrappedKey := wrappedKey, salt := [9] } ∧
      next.hasAccessKey (List.replicate 32 5) = true := by
  obtain ⟨data, written⟩ := sampleLater_writes
  obtain ⟨rekeys, _, reads, closed, _, reading⟩ := rekey_changes_access sample_origin sample_course
  obtain ⟨wrappedKey, later, next, rekeyed, changed, has⟩ :=
    rekeys (List.replicate 32 5) none (worldFrom []) rfl ⟨by decide, by simp [worldFrom]⟩
  have unlocks := (reads [] sampleLater data data .start written written).1 (.fixed ⟨List.replicate 32 2⟩) rfl
  have fails := (reading [1, 2] data written).2.1 (by decide)
  exact ⟨data, wrappedKey, later, next, written, unlocks, fails, closed [1, 2] (by decide), rekeyed, changed, has⟩

end Keyring.Ring
