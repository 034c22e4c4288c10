import Keyring.Cipher.Sealing
import Keyring.Proofs.Action

namespace Keyring.Sealing

theorem length_envelope (key nonce plain aad : Bytes) :
    (envelope key nonce plain aad).length = nonce.length + plain.length + tagLength := by
  simp only [envelope, tag, tagLength, List.length_append, ChaCha.length_apply, Poly1305.length_tag]
  omega

theorem withinCounter_apply (key nonce plain : Bytes) :
    withinCounter (ChaCha.apply key nonce plain) = withinCounter plain := by
  simp [withinCounter]

theorem sealWith_eq_ok_iff {key nonce plain aad message : Bytes} :
    sealWith key nonce plain aad = .ok message ↔
      key.length = keyLength ∧ withinCounter plain ∧ message = envelope key nonce plain aad := by
  unfold sealWith
  by_cases fits : key.length = keyLength
  · by_cases within : withinCounter plain
    · simp [fits, within, eq_comm]
    · simp [fits, within]
  · simp [fits]

theorem sealWith_envelope {key plain : Bytes} (nonce aad : Bytes) (keyFits : key.length = keyLength)
    (within : withinCounter plain) : sealWith key nonce plain aad = .ok (envelope key nonce plain aad) :=
  sealWith_eq_ok_iff.mpr ⟨keyFits, within, rfl⟩

theorem openWith_envelope {key nonce plain : Bytes} (aad : Bytes) (keyFits : key.length = keyLength)
    (nonceFits : nonce.length = nonceLength) (within : withinCounter plain) :
    openWith key (envelope key nonce plain aad) aad = .ok plain := by
  have long : ¬ (envelope key nonce plain aad).length < sealedLength 0 := by
    simp only [length_envelope, sealedLength, nonceFits]
    omega
  have front : (envelope key nonce plain aad).take nonceLength = nonce := by
    simp [envelope, ← nonceFits]
  have back : (envelope key nonce plain aad).drop nonceLength =
      ChaCha.apply key nonce plain ++ tag key nonce aad (ChaCha.apply key nonce plain) := by
    simp [envelope, ← nonceFits]
  have size : (ChaCha.apply key nonce plain ++ tag key nonce aad (ChaCha.apply key nonce plain)).length -
      tagLength = (ChaCha.apply key nonce plain).length := by
    simp [tag, tagLength]
  unfold openWith
  simp only [keyFits, ne_eq, not_true_eq_false, if_false, long, front, back, size, List.splitAt_eq,
    List.take_left, List.drop_left, withinCounter_apply, within, and_self, if_true, ChaCha.apply_apply]

/-- A message that opens is the envelope of what it opens to, under the nonce in front of it. -/
theorem eq_envelope_of_openWith {key message aad plain : Bytes}
    (opened : openWith key message aad = .ok plain) :
    key.length = keyLength ∧ withinCounter plain ∧ (message.take nonceLength).length = nonceLength ∧
      message = envelope key (message.take nonceLength) plain aad := by
  unfold openWith at opened
  split at opened
  · cases opened
  next keyFits =>
    split at opened
    · cases opened
    next long =>
      simp only [List.splitAt_eq] at opened
      split at opened
      next accepted =>
        obtain ⟨within, found⟩ := accepted
        cases opened
        refine ⟨Decidable.not_not.mp keyFits, ?_, ?_, ?_⟩
        · rw [withinCounter_apply]
          exact within
        · simp only [sealedLength, nonceLength, List.length_take] at long ⊢
          omega
        · simp only [envelope, ChaCha.apply_apply, ← found, List.take_append_drop]
      · cases opened

/-- Opening undoes sealing, and accepts nothing but a sealed message. -/
theorem openWith_eq_ok_iff {key message aad plain : Bytes} :
    openWith key message aad = .ok plain ↔
      ∃ nonce, nonce.length = nonceLength ∧ sealWith key nonce plain aad = .ok message := by
  constructor
  · intro opened
    obtain ⟨keyFits, within, nonceFits, whole⟩ := eq_envelope_of_openWith opened
    exact ⟨_, nonceFits, sealWith_eq_ok_iff.mpr ⟨keyFits, within, whole⟩⟩
  · rintro ⟨nonce, nonceFits, packed⟩
    obtain ⟨keyFits, within, rfl⟩ := sealWith_eq_ok_iff.mp packed
    exact openWith_envelope aad keyFits nonceFits within

theorem length_of_openWith {key message aad plain : Bytes} (opened : openWith key message aad = .ok plain) :
    message.length = sealedLength plain.length := by
  obtain ⟨_, _, nonceFits, whole⟩ := eq_envelope_of_openWith opened
  rw [whole, length_envelope, nonceFits, sealedLength]

/-- A message is sealed under the next bytes of the supply. -/
theorem sealFresh_eq_ok_iff {key plain aad message : Bytes} (world : World) :
    (∃ later, sealFresh key plain aad world = .ok message later) ↔
      world.supply.Has nonceLength ∧
        sealWith key (world.supply.segment world.supply.drawn nonceLength) plain aad = .ok message := by
  unfold sealFresh
  simp only [Action.bind_eq_ok, Action.ite_eq_ok, Action.fail_eq_ok, Action.ofExcept_eq_ok, false_and,
    exists_false, and_false, false_or]
  constructor
  · intro finished
    obtain ⟨_, _, nonce, _, drawn, packed, rfl⟩ := finished
    obtain ⟨enough, rfl, _⟩ := Action.draw_eq_ok.mp drawn
    exact ⟨enough, packed⟩
  · rintro ⟨enough, packed⟩
    have keyFits := (sealWith_eq_ok_iff.mp packed).1
    exact ⟨_, not_not_intro keyFits, _, _, Action.draw_of_has enough .nonce, packed, rfl⟩

theorem newSealedKey_eq_ok_iff {accessKey key message : Bytes} {length : Nat} (world : World) :
    (∃ later, newSealedKey accessKey length world = .ok (key, message) later) ↔
      world.supply.Has length ∧ (world.supply.after length).Has nonceLength ∧
        key = world.supply.segment world.supply.drawn length ∧
        sealWith accessKey (world.supply.segment (world.supply.drawn + length) nonceLength) key [] = .ok message := by
  unfold newSealedKey
  simp only [Action.bind_eq_ok, Action.ite_eq_ok, Action.fail_eq_ok, Action.pure_eq_ok, false_and,
    exists_false, and_false, false_or]
  constructor
  · intro finished
    obtain ⟨_, _, _, between, drawn, _, _, packed, same, rfl⟩ := finished
    cases same
    obtain ⟨enough, rfl, rfl⟩ := Action.draw_eq_ok.mp drawn
    obtain ⟨more, wrapped⟩ := (sealFresh_eq_ok_iff _).mp ⟨_, packed⟩
    exact ⟨enough, more, rfl, wrapped⟩
  · rintro ⟨enough, more, rfl, wrapped⟩
    let between : World :=
      ⟨world.supply.after length, world.trace.push (.drew .dataKey world.supply.drawn length)⟩
    have keyFits := (sealWith_eq_ok_iff.mp wrapped).1
    obtain ⟨later, packed⟩ := (sealFresh_eq_ok_iff between).mpr ⟨more, wrapped⟩
    exact ⟨later, not_not_intro keyFits, _, between, Action.draw_of_has enough .dataKey, message, later, packed,
      rfl, rfl⟩

end Keyring.Sealing
