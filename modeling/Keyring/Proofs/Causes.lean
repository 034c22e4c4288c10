import Keyring.Proofs.Interruption

namespace Keyring

theorem Outcome.mapError_eq_error {ε ε' α : Type} {f : ε → ε'} {outcome : Except ε α} {cause : ε'} :
    outcome.mapError f = .error cause ↔ ∃ original, outcome = .error original ∧ f original = cause := by
  cases outcome <;> simp [Except.mapError]

namespace Action

variable {σ ε α β : Type} {allowed : ε → Prop}

/-- An action that fails for none but the allowed causes, and never by a fault. -/
def FailsFor (allowed : ε → Prop) (action : ActionOn σ ε α) : Prop :=
  ∀ before failure after, action before = .error failure after → ∃ cause, failure = .error cause ∧ allowed cause

theorem FailsFor.pure (value : α) : FailsFor allowed (Pure.pure value : ActionOn σ ε α) :=
  fun _ _ _ failed => (pure_eq_error.mp failed).elim

theorem FailsFor.fail {cause : ε} (excused : allowed cause) :
    FailsFor allowed (fail cause : ActionOn σ ε α) :=
  fun _ _ _ failed => ⟨cause, (throw_eq_error.mp failed).1.symm, excused⟩

theorem FailsFor.ofExcept {outcome : Except ε α} (excused : ∀ cause, outcome = .error cause → allowed cause) :
    FailsFor allowed (ofExcept outcome : ActionOn σ ε α) := by
  intro before failure after failed
  obtain ⟨cause, stopped, same, -⟩ := ofExcept_eq_error.mp failed
  exact ⟨cause, same.symm, excused cause stopped⟩

/-- What comes next is only come to with a value that the first action can give. -/
theorem FailsFor.bind {action : ActionOn σ ε α} {next : α → ActionOn σ ε β} (first : FailsFor allowed action)
    (second : ∀ value before between, action before = .ok value between → FailsFor allowed (next value)) :
    FailsFor allowed (action >>= next) := by
  intro before failure after failed
  rcases bind_eq_error.mp failed with early | ⟨value, between, done, late⟩
  · exact first _ _ _ early
  · exact second value before between done _ _ _ late

theorem FailsFor.guard {p : Prop} [Decidable p] {cause : ε} {rest : PUnit → ActionOn σ ε α}
    (excused : p → allowed cause) (others : ¬ p → FailsFor allowed (rest ())) :
    FailsFor allowed (if p then MonadExcept.throw (.error cause) >>= rest else rest ()) := by
  by_cases taken : p
  · rw [if_pos taken]
    exact FailsFor.bind (.fail (excused taken)) fun _ _ _ done => (throw_eq_ok.mp done).elim
  · rw [if_neg taken]
    exact others taken

theorem FailsFor.log {allowed : ε → Prop} (event : Event) : FailsFor allowed (log event : Action ε Unit) :=
  fun _ _ _ failed => by cases failed

theorem FailsFor.mono {other : ε → Prop} {action : ActionOn σ ε α} (fails : FailsFor allowed action)
    (weaker : ∀ cause, allowed cause → other cause) : FailsFor other action := by
  intro before failure after failed
  obtain ⟨cause, same, excused⟩ := fails _ _ _ failed
  exact ⟨cause, same, weaker cause excused⟩

end Action

open Keyring.Action

/-- The bytes are found to be no keyring. -/
abbrev RingError.Corrupt (cause : RingError) : Prop :=
  cause.isCorruption = true

section Decoding

theorem Bundle.inspect_failsFor (activeSeen : Bool) (packets : List Packet) :
    FailsFor RingError.Corrupt (inspect activeSeen packets) := by
  induction packets generalizing activeSeen with
  | nil => exact .pure ()
  | cons packet rest ih =>
    have malformed : ∀ {α : Type} {outcome : Except Malformed α} {cause : RingError},
        outcome.mapError RingError.malformed = .error cause → cause.Corrupt := by
      intro α outcome cause stopped
      obtain ⟨_, -, rfl⟩ := Outcome.mapError_eq_error.mp stopped
      rfl
    unfold inspect
    split
    · refine .guard (fun _ => rfl) fun _ => ?_
      exact .bind (.ofExcept fun _ => malformed) fun _ _ _ _ => ih true
    · exact .bind (.ofExcept fun _ => malformed) fun _ _ _ _ => ih activeSeen
    · exact .bind (.log _) fun _ _ _ _ => ih activeSeen
    all_goals exact .fail rfl

theorem Bundle.viewOf_failsFor (keys : KeySet) (recorded : Option KeyId) :
    FailsFor RingError.Corrupt (viewOf keys recorded) := by
  unfold viewOf
  split
  · exact .fail rfl
  · split
    · split
      · exact .pure _
      · exact .fail rfl
    · exact .bind (.log _) fun _ _ _ _ => .pure _

/-- A bundle that cannot be decoded is no part of a keyring. -/
theorem Bundle.decode_failsFor (plain : Bytes) : FailsFor RingError.Corrupt (decode plain) := by
  unfold decode
  refine .bind (.ofExcept fun cause stopped => ?_) fun packets _ _ _ => ?_
  · obtain ⟨_, -, rfl⟩ := Outcome.mapError_eq_error.mp stopped
    rfl
  refine .bind (inspect_failsFor false packets) fun _ _ _ _ => ?_
  refine .bind (.ofExcept fun cause stopped => ?_) fun keys _ _ _ => ?_
  · obtain ⟨_, -, rfl⟩ := Outcome.mapError_eq_error.mp stopped
    rfl
  exact .bind (viewOf_failsFor keys _) fun _ _ _ _ => .pure _

end Decoding

namespace Ring

section Container

theorem parseSupported_failsFor (data : Bytes) : FailsFor RingError.Corrupt (parseSupported data) := by
  unfold parseSupported
  refine .bind (.ofExcept fun cause stopped => ?_) fun container _ _ _ => ?_
  · obtain ⟨_, -, rfl⟩ := Outcome.mapError_eq_error.mp stopped
    rfl
  exact .guard (fun _ => rfl) fun _ => .guard (fun _ => rfl) fun _ => .pure _

theorem inspect_failsFor (seen : List Role) (packets : List Packet) :
    FailsFor RingError.Corrupt (inspect seen packets) := by
  induction packets generalizing seen with
  | nil => exact .pure ()
  | cons packet rest ih =>
    unfold inspect
    split
    · exact .bind (.log _) fun _ _ _ _ => ih seen
    · exact .fail rfl
    · exact .fail rfl
    · split
      · exact .fail rfl
      · exact ih _

theorem required_failsFor (type : PacketType) (packets : List Packet) :
    FailsFor RingError.Corrupt (required type packets) := by
  unfold required
  split
  · exact .pure _
  · exact .fail rfl

variable {source : Source} {data : Bytes}

theorem find_failsFor (contents : source.contents = .ok data) : FailsFor RingError.Corrupt (find source) := by
  unfold find
  refine .bind (.ofExcept fun cause stopped => ?_) fun data _ _ _ => ?_
  · rw [contents] at stopped
    cases stopped
  refine .bind (parseSupported_failsFor data) fun container _ _ _ => ?_
  refine .bind (inspect_failsFor [] container.packets) fun _ _ _ _ => ?_
  refine .bind (required_failsFor .dataKey container.packets) fun _ _ _ _ => ?_
  exact .bind (required_failsFor .bundle container.packets) fun _ _ _ _ => .pure _

/-- Bytes are found damaged, whatever the credential, or they are a container in order and are then opened. -/
theorem read_eq_openLayers_or_corrupt (contents : source.contents = .ok data) (credential : Credential)
    (begun : World) :
    (∃ container salt wrappedKey sealedBundle inspected, Container.parse data = .ok container ∧
      container.Holds salt wrappedKey sealedBundle ∧
      read source credential begun = openLayers container credential salt wrappedKey sealedBundle inspected) ∨
    ∃ cause ended, read source credential begun = .error (.error cause) ended ∧ cause.Corrupt := by
  rw [read_eq_find]
  cases ran : find source begun with
  | error failure ended =>
    obtain ⟨cause, rfl, corrupt⟩ := find_failsFor contents _ _ _ ran
    exact .inr ⟨cause, ended, bind_of_error ran _, corrupt⟩
  | ok found passed =>
    obtain ⟨_, contentsToo, parsed, holds⟩ := (find_eq_ok_iff found begun).mp ⟨_, ran⟩
    cases contents.symm.trans contentsToo
    exact .inl ⟨_, _, _, _, passed, parsed, holds, bind_of_ok ran _⟩

end Container

section Opening

/-- What is not opened under a key of full length is too short, or refused. -/
theorem openContent_failsFor {key content : Bytes} (keyFits : key.length = Sealing.keyLength) :
    FailsFor (fun cause => cause.Corrupt ∨ cause = .refused) (openContent key content) := by
  refine .ofExcept fun cause stopped => ?_
  obtain ⟨original, failed, rfl⟩ := Outcome.mapError_eq_error.mp stopped
  rcases Sealing.openWith_eq_error_iff.mp failed with ⟨unfit, -⟩ | ⟨-, -, rfl⟩ | ⟨-, -, -, rfl⟩
  · exact absurd keyFits unfit
  · exact .inl rfl
  · exact .inr rfl

/-- A container in order fails to open for the length of the access key, and for nothing else if that is wrong. -/
theorem openLayers_failsFor (container : Container) (credential : Credential) (salt wrappedKey sealedBundle : Bytes) :
    FailsFor
      (fun cause =>
        (credential.key salt).length = Credential.keyLength ∧ (cause.Corrupt ∨ cause = .refused) ∨
        (credential.key salt).length ≠ Credential.keyLength ∧ cause = .accessKeyLength (credential.key salt).length)
      (openLayers container credential salt wrappedKey sealedBundle) := by
  by_cases keyFits : (credential.key salt).length = Credential.keyLength
  · suffices opens : FailsFor (fun cause => cause.Corrupt ∨ cause = .refused)
        (openLayers container credential salt wrappedKey sealedBundle) from
      opens.mono fun cause excused => .inl ⟨keyFits, excused⟩
    have asked : FailsFor (fun cause => cause.Corrupt ∨ cause = .refused) (ask credential salt) := by
      intro before failure after failed
      have passed : ask credential salt before = .ok (credential.key salt) _ := ask_eq_ok.mpr ⟨rfl, keyFits, rfl⟩
      cases passed.symm.trans failed
    refine .bind asked fun accessKey _ _ given => ?_
    obtain ⟨-, accessKeyFits, -⟩ := ask_eq_ok.mp given
    refine .bind (openContent_failsFor accessKeyFits) fun dataKey _ _ _ => ?_
    refine .guard (fun _ => .inl rfl) fun dataKeyFits => ?_
    refine .bind (openContent_failsFor (Decidable.not_not.mp dataKeyFits)) fun plain _ _ _ => ?_
    refine .bind ((Bundle.decode_failsFor plain).mono fun _ => .inl) fun bundle _ _ _ => ?_
    exact .bind (.log _) fun _ _ _ _ => .pure _
  · intro before failure after failed
    cases (openLayers_of_length keyFits before).symm.trans failed
    exact ⟨_, rfl, .inr ⟨keyFits, rfl⟩⟩

/-- A read that fails finds damage or, of a container in order, that the access key does not open it. -/
theorem read_eq_ok_or_error (data : Bytes) (credential : Credential) (world : World) :
    (∃ ring later, read (.ofBytes data) credential world = .ok ring later) ∨
      ∃ cause later, read (.ofBytes data) credential world = .error (.error cause) later ∧
        (cause.Corrupt ∨ ∃ container salt wrappedKey sealedBundle, Container.parse data = .ok container ∧
          container.Holds salt wrappedKey sealedBundle ∧
          ((credential.key salt).length = Credential.keyLength ∧ cause = .refused ∨
            (credential.key salt).length ≠ Credential.keyLength ∧
              cause = .accessKeyLength (credential.key salt).length)) := by
  rcases read_eq_openLayers_or_corrupt (Source.contents_ofBytes data) credential world with
    ⟨container, salt, wrappedKey, sealedBundle, opening, parsed, holds, same⟩ | ⟨cause, ended, failed, corrupt⟩
  · rw [same]
    cases opened : openLayers container credential salt wrappedKey sealedBundle opening with
    | ok ring later => exact .inl ⟨ring, later, rfl⟩
    | error failure later =>
      obtain ⟨cause, rfl, excused⟩ :=
        openLayers_failsFor container credential salt wrappedKey sealedBundle _ _ _ opened
      refine .inr ⟨cause, later, rfl, ?_⟩
      rcases excused with ⟨keyFits, corrupt | refused⟩ | unfit
      · exact .inl corrupt
      · exact .inr ⟨container, salt, wrappedKey, sealedBundle, parsed, holds, .inl ⟨keyFits, refused⟩⟩
      · exact .inr ⟨container, salt, wrappedKey, sealedBundle, parsed, holds, .inr unfit⟩
  · exact .inr ⟨cause, ended, failed, .inl corrupt⟩

end Opening

end Ring

section Lengths

theorem Derivation.length_stretchedBlock (passphrase salt : Bytes) (rounds number : Nat) :
    (stretchedBlock passphrase salt rounds number).length = 32 := by
  -- Both digests of the pair keep their length through every round.
  have pair : ∀ (count : Nat) (first : Bytes), first.length = 32 →
      (Nat.repeat (fun (pair : Bytes × Bytes) =>
        let next := Hmac.mac passphrase pair.1
        (next, xorBytes pair.2 next)) count (first, first)).2.length = 32 := by
    intro count first size
    induction count with
    | zero => exact size
    | succ count ih =>
      change (xorBytes _ (Hmac.mac passphrase _)).length = 32
      rw [xorBytes, List.length_zipWith, ih, Hmac.length_mac, Nat.min_self]
  exact pair _ _ (Hmac.length_mac _ _)

theorem Derivation.length_stretched (passphrase salt : Bytes) (rounds length : Nat) :
    (stretched passphrase salt rounds length).length = length := by
  have each : ∀ i ∈ List.range ((length + 31) / 32), (stretchedBlock passphrase salt rounds (i + 1)).length = 32 :=
    fun i _ => length_stretchedBlock passphrase salt rounds (i + 1)
  have whole : ((List.range ((length + 31) / 32)).flatMap fun i =>
      stretchedBlock passphrase salt rounds (i + 1)).length = 32 * ((length + 31) / 32) := by
    rw [List.length_flatMap, List.map_congr_left each, List.map_const', List.sum_replicate_nat, List.length_range,
      Nat.mul_comm]
  rw [stretched, List.length_take, whole]
  omega

/-- What is made from a passphrase has the length of an access key. -/
theorem Credential.length_key {credential : Credential} {text : String} {rounds : Nat}
    (derived : credential = .passphrase text ∨ credential = .stretched text rounds) (salt : Bytes) :
    (credential.key salt).length = keyLength := by
  rcases derived with rfl | rfl
  · exact Derivation.length_extracted _ _ _
  · exact Derivation.length_stretched _ _ _ _

end Lengths

/-- Whether the access key that was given has the wrong length. -/
def RingError.isAccessKeyLength : RingError → Bool
  | accessKeyLength _ => true
  | _ => false

/-- Damage is told from every other cause. -/
theorem RingError.Corrupt.alone {cause : RingError} (corrupt : cause.Corrupt) :
    cause.isAuthentication = false ∧ cause.isAccessKeyLength = false ∧
      (∀ length, cause ≠ .sealing (.keyLength length)) ∧ cause ≠ .sealing .tooLong ∧ cause ≠ .initialKeyEmpty := by
  cases cause with
  | accessKeyLength | initialKeyEmpty | refused | io => exact absurd corrupt Bool.false_ne_true
  | sealing reason =>
    cases reason with
    | truncated => exact ⟨rfl, rfl, nofun, nofun, nofun⟩
    | keyLength | tooLong | refused => exact absurd corrupt Bool.false_ne_true
  | version | reserved | missing | duplicate | unexpected | dataKeyLength | duplicateId | activeUnknown | noKeys
  | malformed => exact ⟨rfl, rfl, nofun, nofun, nofun⟩

/-- Whatever bytes are read, and with whatever credential, the ring is read, or reading fails for a cause of exactly
one kind: the bytes are no keyring, the access key is not the right one, or its length is wrong. The second is only
found of a container in order under an access key of full length, and the third never with a passphrase. -/
theorem Ring.read_classified (data : Bytes) (credential : Credential) (world : World) :
    (∃ ring later, read (.ofBytes data) credential world = .ok ring later) ∨
      ∃ cause later, read (.ofBytes data) credential world = .error (.error cause) later ∧
        [cause.isCorruption, cause.isAuthentication, cause.isAccessKeyLength].count true = 1 ∧
        (∀ length, cause ≠ .sealing (.keyLength length)) ∧ cause ≠ .sealing .tooLong ∧ cause ≠ .initialKeyEmpty ∧
        (cause.isAuthentication = true → ∃ container salt wrappedKey sealedBundle,
          Container.parse data = .ok container ∧ container.Holds salt wrappedKey sealedBundle ∧
          (credential.key salt).length = 32) ∧
        ∀ text rounds, credential = .passphrase text ∨ credential = .stretched text rounds →
          cause.isAccessKeyLength = false := by
  refine (read_eq_ok_or_error data credential world).imp_right ?_
  rintro ⟨cause, later, failed, corrupt |
    ⟨container, salt, wrappedKey, sealedBundle, parsed, holds, ⟨keyFits, rfl⟩ | ⟨unfit, rfl⟩⟩⟩
  · obtain ⟨notRefused, notLength, noKeyLength, notTooLong, notEmpty⟩ := corrupt.alone
    refine ⟨cause, later, failed, ?_, noKeyLength, notTooLong, notEmpty, ?_, fun _ _ _ => notLength⟩
    · rw [corrupt, notRefused, notLength]
      rfl
    · intro refused
      cases notRefused.symm.trans refused
  · refine ⟨.refused, later, failed, rfl, by simp, by simp, by simp, fun _ => ?_, fun _ _ _ => rfl⟩
    exact ⟨container, salt, wrappedKey, sealedBundle, parsed, holds, keyFits⟩
  · refine ⟨_, later, failed, rfl, by simp, by simp, by simp, by simp [RingError.isAuthentication], ?_⟩
    exact fun text rounds derived => absurd (Credential.length_key derived salt) unfit

end Keyring
