import Keyring.Proofs.Sealing

namespace Keyring.Sealing

section Failing

variable {key message aad : Bytes}

theorem openWith_keyLength (unfit : key.length ≠ keyLength) :
    openWith key message aad = .error (.keyLength key.length) := by
  rw [openWith, if_pos unfit]

theorem openWith_truncated (keyFits : key.length = keyLength) (short : message.length < sealedLength 0) :
    openWith key message aad = .error (.truncated message.length) := by
  rw [openWith, if_neg (not_not_intro keyFits), if_pos short]

/-- A message of full length that does not open under a key of full length is refused. -/
theorem openWith_eq_refused (keyFits : key.length = keyLength) (long : sealedLength 0 ≤ message.length)
    (closed : ∀ plain, openWith key message aad ≠ .ok plain) : openWith key message aad = .error .refused := by
  unfold openWith at closed ⊢
  rw [if_neg (not_not_intro keyFits), if_neg (Nat.not_lt.mpr long)] at closed ⊢
  simp only [List.splitAt_eq] at closed ⊢
  split at closed
  · exact absurd rfl (closed _)
  next other => rw [if_neg other]

/-- What is not opened has the first cause that applies: the key, the length of the message, or the tag. -/
theorem openWith_eq_error_iff {cause : SealingError} :
    openWith key message aad = .error cause ↔
      key.length ≠ keyLength ∧ cause = .keyLength key.length ∨
      key.length = keyLength ∧ message.length < sealedLength 0 ∧ cause = .truncated message.length ∨
      key.length = keyLength ∧ sealedLength 0 ≤ message.length ∧
        (∀ plain, openWith key message aad ≠ .ok plain) ∧ cause = .refused := by
  by_cases keyFits : key.length = keyLength
  · by_cases long : sealedLength 0 ≤ message.length
    · simp only [keyFits, ne_eq, not_true_eq_false, false_and, true_and, false_or, Nat.not_lt.mpr long, long]
      constructor
      · intro failed
        have closed : ∀ plain, openWith key message aad ≠ .ok plain := by
          intro plain opened
          cases opened.symm.trans failed
        have refused := openWith_eq_refused keyFits long closed
        exact ⟨closed, Except.error.inj (failed.symm.trans refused)⟩
      · rintro ⟨closed, rfl⟩
        exact openWith_eq_refused keyFits long closed
    · have short := Nat.lt_of_not_le long
      simp [openWith_truncated keyFits short, keyFits, short, long, eq_comm]
  · simp [openWith_keyLength keyFits, keyFits, eq_comm]

end Failing

/-- A sealed message carries its nonce in front. -/
theorem take_of_sealWith {key nonce plain aad message : Bytes} (nonceFits : nonce.length = nonceLength)
    (packed : sealWith key nonce plain aad = .ok message) : message.take nonceLength = nonce := by
  obtain ⟨-, -, rfl⟩ := sealWith_eq_ok_iff.mp packed
  simp [envelope, ← nonceFits]

theorem take_envelope (key nonce plain aad : Bytes) :
    (envelope key nonce plain aad).take (nonce.length + plain.length) = nonce ++ ChaCha.apply key nonce plain := by
  have size : nonce.length + plain.length = (nonce ++ ChaCha.apply key nonce plain).length := by simp
  rw [envelope, ← List.append_assoc, size, List.take_left]

theorem apply_injective {key nonce plain other : Bytes}
    (same : ChaCha.apply key nonce other = ChaCha.apply key nonce plain) : other = plain := by
  rw [← ChaCha.apply_apply key nonce other, same, ChaCha.apply_apply]

/-- Two messages that open under one key and differ in nothing but the tag are the same. -/
theorem eq_of_openWith {key message changed aad plain other : Bytes} (opened : openWith key message aad = .ok plain)
    (openedToo : openWith key changed aad = .ok other) (sameLength : changed.length = message.length)
    (front : changed.take (message.length - tagLength) = message.take (message.length - tagLength)) :
    changed = message := by
  have size := length_of_openWith opened
  have sizeToo := length_of_openWith openedToo
  obtain ⟨-, -, nonceFits, whole⟩ := eq_envelope_of_openWith opened
  obtain ⟨-, -, nonceFitsToo, wholeToo⟩ := eq_envelope_of_openWith openedToo
  generalize message.take nonceLength = nonce at nonceFits whole
  generalize changed.take nonceLength = nonceToo at nonceFitsToo wholeToo
  simp only [sealedLength] at size sizeToo
  have cut : message.length - tagLength = nonce.length + plain.length := by omega
  have cutToo : message.length - tagLength = nonceToo.length + other.length := by omega
  have parts : nonceToo ++ ChaCha.apply key nonceToo other = nonce ++ ChaCha.apply key nonce plain := by
    rw [← take_envelope key nonceToo other aad, ← take_envelope key nonce plain aad, ← cutToo, ← cut, ← wholeToo,
      ← whole, front]
  obtain ⟨rfl, masked⟩ := List.append_inj parts (nonceFitsToo.trans nonceFits.symm)
  rw [wholeToo, apply_injective masked, ← whole]

/-- Opening accepts what sealing under the nonce in front would give, and nothing else. What is sealed opens to its
text, no tag but the one that it was given is accepted, and what is not opened has one of three causes. -/
theorem opens_exactly_sealed (key aad : Bytes) :
    (∀ message plain, openWith key message aad = .ok plain ↔
      key.length = 32 ∧ 40 ≤ message.length ∧ sealWith key (message.take 24) plain aad = .ok message) ∧
    (∀ message plain, openWith key message aad = .ok plain → message.length = plain.length + 40) ∧
    (∀ plain world, key.length = 32 → withinCounter plain = true → world.supply.Has 24 →
      ∃ message later, sealFresh key plain aad world = .ok message later) ∧
    (∀ plain message world later, sealFresh key plain aad world = .ok message later →
      openWith key message aad = .ok plain) ∧
    (∀ nonce plain message changed, nonce.length = 24 → sealWith key nonce plain aad = .ok message →
      changed.length = message.length → changed.take (message.length - 16) = message.take (message.length - 16) →
      changed ≠ message → openWith key changed aad = .error .refused) ∧
    ∀ message cause, openWith key message aad = .error cause ↔
      key.length ≠ 32 ∧ cause = .keyLength key.length ∨
      key.length = 32 ∧ message.length < 40 ∧ cause = .truncated message.length ∨
      key.length = 32 ∧ 40 ≤ message.length ∧ (∀ plain, openWith key message aad ≠ .ok plain) ∧ cause = .refused := by
  have sealedOpens : ∀ nonce plain message, nonce.length = 24 → sealWith key nonce plain aad = .ok message →
      openWith key message aad = .ok plain :=
    fun nonce plain message nonceFits packed => openWith_eq_ok_iff.mpr ⟨nonce, nonceFits, packed⟩
  refine ⟨?_, ?_, ?_, ?_, ?_, fun message cause => openWith_eq_error_iff⟩
  · intro message plain
    constructor
    · intro opened
      obtain ⟨nonce, nonceFits, packed⟩ := openWith_eq_ok_iff.mp opened
      have size := length_of_openWith opened
      rw [sealedLength, nonceLength, tagLength] at size
      refine ⟨(sealWith_eq_ok_iff.mp packed).1, by omega, ?_⟩
      have front : message.take 24 = nonce := take_of_sealWith nonceFits packed
      rw [front]
      exact packed
    · rintro ⟨-, long, packed⟩
      have nonceFits : (message.take 24).length = 24 := by
        rw [List.length_take]
        omega
      exact sealedOpens _ plain message nonceFits packed
  · intro message plain opened
    rw [length_of_openWith opened, sealedLength, nonceLength, tagLength]
    omega
  · intro plain world keyFits within enough
    have packed := sealWith_envelope (world.supply.segment world.supply.drawn nonceLength) aad keyFits within
    obtain ⟨later, done⟩ := (sealFresh_eq_ok_iff world).mpr ⟨enough, packed⟩
    exact ⟨_, later, done⟩
  · intro plain message world later done
    obtain ⟨-, packed⟩ := (sealFresh_eq_ok_iff world).mp ⟨later, done⟩
    exact sealedOpens _ plain message (Supply.length_segment _ _ _) packed
  · intro nonce plain message changed nonceFits packed sameLength front apart
    have opened := sealedOpens nonce plain message nonceFits packed
    have keyFits := (sealWith_eq_ok_iff.mp packed).1
    have long : sealedLength 0 ≤ changed.length := by
      rw [sameLength, length_of_openWith opened, sealedLength, sealedLength]
      omega
    exact openWith_eq_refused keyFits long fun other openedToo =>
      apart (eq_of_openWith opened openedToo sameLength front)

/-- Of a message of one byte, nothing is left of the tag. -/
theorem opens_exactly_sealed_untagged :
    ∃ message, sealWith (List.replicate 32 1) (List.replicate 24 0) [7] [] = .ok message ∧ message.length = 41 ∧
      openWith (List.replicate 32 1) (message.take 25 ++ List.replicate 16 0) [] = .error .refused := by
  have packed : sealWith (List.replicate 32 1) (List.replicate 24 0) [7] [] = .ok _ :=
    sealWith_envelope (List.replicate 24 0) [] rfl rfl
  obtain ⟨opens, size, -, -, tampered, -⟩ := opens_exactly_sealed (List.replicate 32 1) []
  refine ⟨_, packed, size _ [7] ((opens _ _).mpr ⟨rfl, by decide +kernel, packed⟩), ?_⟩
  refine tampered _ _ _ _ rfl packed ?_ ?_ ?_
  · decide +kernel
  · decide +kernel
  · decide +kernel

end Keyring.Sealing
