import Keyring.Proofs.Bundle
import Keyring.Proofs.Sealing
import Keyring.Ring.File

namespace Keyring

/-- A container with one data key, one bundle and at most one salt, which is empty if there is none. -/
structure Container.Holds (container : Container) (salt wrappedKey sealedBundle : Bytes) : Prop where
  header : container.header = .current
  placed : ∀ packet ∈ container.packets, packet.type ≠ .entry ∧ packet.type ≠ .active
  dataKey : container.packets.filter (·.type = .dataKey) = [⟨.dataKey, wrappedKey⟩]
  bundle : container.packets.filter (·.type = .bundle) = [⟨.bundle, sealedBundle⟩]
  salt : container.packets.filter (·.type = .salt) = [⟨.salt, salt⟩] ∨
    container.packets.filter (·.type = .salt) = [] ∧ salt = []

namespace Ring

/-- How many packets of a role may still come when those of the roles in `seen` are there. -/
def allowance (seen : List Role) (role : Role) : Nat :=
  if role = .entry ∨ role = .active ∨ role ∈ seen then 0 else 1

theorem allowance_cons {seen : List Role} {first role : Role} (fresh : allowance seen first = 1) :
    allowance (first :: seen) role + (if first = role then 1 else 0) = allowance seen role := by
  by_cases same : first = role
  · subst same
    simp [allowance] at fresh ⊢
    simp [fresh]
  · simp [allowance, same, Ne.symm same]

theorem inspect_eq_ok_iff {seen : List Role} {packets : List Packet} (world : World) :
    (∃ later, inspect seen packets world = .ok () later) ↔
      ∀ role, role ≠ .unknown → packets.countP (·.type.role = role) ≤ allowance seen role := by
  induction packets generalizing seen world with
  | nil => simp [inspect]
  | cons packet rest ih =>
    simp only [List.countP_cons, decide_eq_true_eq]
    unfold inspect
    -- A defined packet comes only where its role is still allowed, and uses that up.
    have refused : ∀ kind, kind ≠ .unknown → allowance seen kind = 0 →
        ¬ ∀ role, role ≠ .unknown → rest.countP (·.type.role = role) + (if kind = role then 1 else 0) ≤
          allowance seen role := by
      intro kind known full few
      have bound := few kind known
      rw [if_pos rfl, full] at bound
      omega
    have repeatable : ∀ kind, kind ≠ .unknown → kind ≠ .entry → kind ≠ .active →
        ((∃ later, (if kind ∈ seen then Action.fail (.duplicate packet.type)
            else inspect (kind :: seen) rest : RingAction Unit) world = .ok () later) ↔
          ∀ role, role ≠ .unknown → rest.countP (·.type.role = role) + (if kind = role then 1 else 0) ≤
            allowance seen role) := by
      intro kind known notEntry notActive
      by_cases present : kind ∈ seen
      · have full : allowance seen kind = 0 := by simp [allowance, present]
        simp only [present, if_true, Action.fail_eq_ok, exists_false, false_iff]
        exact refused kind known full
      · have fresh : allowance seen kind = 1 := by simp [allowance, notEntry, notActive, present]
        rw [if_neg present, ih world]
        refine forall_congr' fun role => imp_congr_right fun _ => ?_
        rw [← allowance_cons fresh]
        omega
    cases kind : packet.type.role with
    | unknown =>
      simp only [Action.bind_eq_ok, Action.log_eq_ok]
      constructor
      · rintro ⟨later, _, _, rfl, finished⟩ role known
        rw [if_neg (Ne.symm known)]
        exact (ih _).mp ⟨later, finished⟩ role known
      · intro few
        obtain ⟨later, finished⟩ := (ih _).mpr fun role known => by
          have bound := few role known
          rwa [if_neg (Ne.symm known)] at bound
        exact ⟨later, (), _, rfl, finished⟩
    | entry =>
      simp only [Action.fail_eq_ok, exists_false, false_iff]
      exact refused _ (by decide) (by simp [allowance])
    | active =>
      simp only [Action.fail_eq_ok, exists_false, false_iff]
      exact refused _ (by decide) (by simp [allowance])
    | dataKey => exact repeatable _ (by decide) (by decide) (by decide)
    | salt => exact repeatable _ (by decide) (by decide) (by decide)
    | bundle => exact repeatable _ (by decide) (by decide) (by decide)

theorem countP_role {role : Role} {type : PacketType} (defined : role.type? = some type) (packets : List Packet) :
    packets.countP (·.type.role = role) = (packets.filter (·.type = type)).length := by
  rw [List.countP_eq_length_filter]
  simp only [PacketType.role_eq_iff defined]

theorem content?_eq (type : PacketType) (packets : List Packet) :
    content? type packets = (packets.filter (·.type = type)).head?.map Packet.content := by
  rw [content?, List.head?_filter]

/-- The packets of a type are none, or the one whose content is found. -/
theorem filter_of_length_le_one {type : PacketType} {packets : List Packet}
    (few : (packets.filter (·.type = type)).length ≤ 1) :
    packets.filter (·.type = type) = ((content? type packets).map (⟨type, ·⟩)).toList := by
  rw [content?_eq]
  have ofType : ∀ packet ∈ packets.filter (·.type = type), packet.type = type := by
    intro packet member
    simpa using (List.mem_filter.mp member).2
  generalize packets.filter (·.type = type) = found at few ofType
  match found with
  | [] => rfl
  | [packet] =>
    have same := ofType packet List.mem_cons_self
    cases packet
    simp_all
  | first :: second :: rest => simp at few

/-- The packets of a container are in order if it holds one data key, one bundle and at most one salt. -/
theorem holds_iff {container : Container} {salt wrappedKey sealedBundle : Bytes} :
    container.Holds salt wrappedKey sealedBundle ↔
      container.header = .current ∧
      (∀ role, role ≠ .unknown → container.packets.countP (·.type.role = role) ≤ allowance [] role) ∧
      content? .dataKey container.packets = some wrappedKey ∧
      content? .bundle container.packets = some sealedBundle ∧
      (content? .salt container.packets).getD [] = salt := by
  constructor
  · rintro ⟨header, placed, dataKey, bundle, oneSalt⟩
    refine ⟨header, ?_, by simp [content?_eq, dataKey], by simp [content?_eq, bundle], ?_⟩
    · intro role known
      cases role with
      | unknown => exact absurd rfl known
      | dataKey =>
        have defined : Role.dataKey.type? = some .dataKey := rfl
        simp [countP_role defined, dataKey, allowance]
      | bundle =>
        have defined : Role.bundle.type? = some .bundle := rfl
        simp [countP_role defined, bundle, allowance]
      | salt =>
        have defined : Role.salt.type? = some .salt := rfl
        rcases oneSalt with one | ⟨none, _⟩ <;> simp [countP_role defined, allowance, *]
      | entry =>
        have defined : Role.entry.type? = some .entry := rfl
        have absent : container.packets.filter (·.type = .entry) = [] := by
          simpa using fun packet member => (placed packet member).1
        simp [countP_role defined, absent]
      | active =>
        have defined : Role.active.type? = some .active := rfl
        have absent : container.packets.filter (·.type = .active) = [] := by
          simpa using fun packet member => (placed packet member).2
        simp [countP_role defined, absent]
    · rcases oneSalt with one | ⟨none, rfl⟩ <;> simp [content?_eq, *]
  · rintro ⟨header, few, dataKey, bundle, rfl⟩
    have atMost : ∀ role type, role.type? = some type →
        (container.packets.filter (·.type = type)).length ≤ allowance [] role := by
      intro role type defined
      have known : role ≠ .unknown := by
        rintro rfl
        cases defined
      have bound := few role known
      rwa [countP_role defined] at bound
    have misplaced : ∀ role type, role.type? = some type → allowance [] role = 0 →
        ∀ packet ∈ container.packets, packet.type ≠ type := by
      intro role type defined none
      have bound := atMost role type defined
      rw [none] at bound
      simpa using List.length_eq_zero_iff.mp (Nat.le_zero.mp bound)
    refine ⟨header, ?_, ?_, ?_, ?_⟩
    · exact fun packet member => ⟨misplaced .entry .entry rfl rfl packet member,
        misplaced .active .active rfl rfl packet member⟩
    · rw [filter_of_length_le_one (atMost .dataKey .dataKey rfl), dataKey]
      rfl
    · rw [filter_of_length_le_one (atMost .bundle .bundle rfl), bundle]
      rfl
    · rw [filter_of_length_le_one (atMost .salt .salt rfl)]
      cases content? .salt container.packets with
      | some salt => exact Or.inl rfl
      | none => exact Or.inr ⟨rfl, rfl⟩

section Steps

variable {before after : World}

@[simp]
theorem checkAccessKey_eq_ok {key : Bytes} {result : Unit} :
    checkAccessKey key before = .ok result after ↔ key.length = Credential.keyLength ∧ before = after := by
  simp [checkAccessKey, Action.ite_eq_ok]

@[simp]
theorem parseSupported_eq_ok {data : Bytes} {container : Container} :
    parseSupported data before = .ok container after ↔
      Container.parse data = .ok container ∧ container.header = .current ∧ before = after := by
  unfold parseSupported
  simp only [Action.bind_eq_ok, Action.ite_eq_ok, Action.fail_eq_ok, Action.ofExcept_eq_ok,
    Action.pure_eq_ok, Outcome.mapError_eq_ok, false_and, exists_false, and_false, false_or, Decidable.not_not]
  constructor
  · intro finished
    obtain ⟨_, _, ⟨parsed, rfl⟩, version, reserved, rfl, rfl⟩ := finished
    refine ⟨parsed, ?_, rfl⟩
    rw [Header.current, ← version, ← reserved]
  · rintro ⟨parsed, header, rfl⟩
    exact ⟨container, before, ⟨parsed, rfl⟩, by rw [header]; rfl, by rw [header]; rfl, rfl, rfl⟩

@[simp]
theorem required_eq_ok {type : PacketType} {packets : List Packet} {content : Bytes} :
    required type packets before = .ok content after ↔
      content? type packets = some content ∧ before = after := by
  unfold required
  cases content? type packets <;> simp

@[simp]
theorem ask_eq_ok {credential : Credential} {salt key : Bytes} :
    ask credential salt before = .ok key after ↔ key = credential.key salt ∧
      key.length = Credential.keyLength ∧ { before with trace := before.trace.push (.asked salt) } = after := by
  unfold ask
  simp only [Action.bind_eq_ok, Action.record_eq_ok, checkAccessKey_eq_ok, Action.pure_eq_ok]
  constructor
  · intro finished
    obtain ⟨_, _, rfl, _, _, ⟨fits, rfl⟩, rfl, rfl⟩ := finished
    exact ⟨rfl, fits, rfl⟩
  · rintro ⟨rfl, fits, rfl⟩
    exact ⟨(), _, rfl, (), _, ⟨fits, rfl⟩, rfl, rfl⟩

@[simp]
theorem openContent_eq_ok {key content plain : Bytes} :
    openContent key content before = .ok plain after ↔
      Sealing.openWith key content [] = .ok plain ∧ before = after := by
  simp [openContent]

end Steps

/-- What a keyring is found to be, layer by layer. -/
structure Layers where
  container : Container
  salt : Bytes
  wrappedKey : Bytes
  sealedBundle : Bytes
  dataKey : Bytes
  plain : Bytes
  /-- The packets of the bundle. -/
  inner : List Packet
  bundle : Bundle

namespace Layers

/-- The layers of a byte string that is opened with a credential. -/
structure Of (layers : Layers) (data : Bytes) (credential : Credential) : Prop where
  parsed : Container.parse data = .ok layers.container
  holds : layers.container.Holds layers.salt layers.wrappedKey layers.sealedBundle
  accessKeyFits : (credential.key layers.salt).length = Credential.keyLength
  dataKeyOpens : Sealing.openWith (credential.key layers.salt) layers.wrappedKey [] = .ok layers.dataKey
  dataKeyFits : layers.dataKey.length = dataKeyLength
  bundleOpens : Sealing.openWith layers.dataKey layers.sealedBundle [] = .ok layers.plain
  innerParsed : Packet.parseAll 0 layers.plain = .ok layers.inner
  described : Bundle.Describes layers.inner layers.bundle

/-- The ring that is read off the layers. -/
def ring (layers : Layers) : Ring where
  header := layers.container.header
  salt := layers.salt
  wrappedKey := layers.wrappedKey
  dataKey := ⟨layers.dataKey⟩
  view := layers.bundle.view
  maxId := layers.bundle.view.keys.maxId
  extras := Bundle.unknownAmong layers.container.packets
  bundleExtras := layers.bundle.extras

end Layers

/-- A ring is read exactly if its bytes can be opened layer by layer. -/
theorem read_eq_ok_iff {source : Source} {credential : Credential} {ring : Ring} (world : World) :
    (∃ later, read source credential world = .ok ring later) ↔
      ∃ data layers, source.contents = .ok data ∧ Layers.Of layers data credential ∧ ring = layers.ring := by
  unfold read
  simp only [Action.bind_eq_ok, Action.ite_eq_ok, Action.fail_eq_ok, Action.ofExcept_eq_ok, Action.log_eq_ok,
    Action.pure_eq_ok, Outcome.mapError_eq_ok, parseSupported_eq_ok, required_eq_ok, ask_eq_ok,
    openContent_eq_ok, false_and, exists_false, and_false, false_or, Decidable.not_not]
  constructor
  · intro finished
    obtain ⟨_, data, _, ⟨contents, rfl⟩, container, _, ⟨parsed, header, rfl⟩, _, _, inspected,
      wrappedKey, _, ⟨dataKeyFound, rfl⟩, sealedBundle, _, ⟨bundleFound, rfl⟩, accessKey, _,
      ⟨rfl, accessKeyFits, rfl⟩, dataKey, _, ⟨dataKeyOpens, rfl⟩, dataKeyFits,
      plain, _, ⟨bundleOpens, rfl⟩, bundle, _, decoded, _, _, _, rfl, rfl⟩ := finished
    obtain ⟨inner, innerParsed, described⟩ := (Bundle.decode_eq_ok_iff _).mp ⟨_, decoded⟩
    have holds := holds_iff.mpr ⟨header, (inspect_eq_ok_iff _).mp ⟨_, inspected⟩, dataKeyFound, bundleFound, rfl⟩
    exact ⟨data, ⟨container, _, wrappedKey, sealedBundle, dataKey, plain, inner, bundle⟩, contents,
      ⟨parsed, holds, accessKeyFits, dataKeyOpens, dataKeyFits, bundleOpens, innerParsed, described⟩, rfl⟩
  · rintro ⟨data, layers, contents, opened, rfl⟩
    obtain ⟨header, few, dataKeyFound, bundleFound, salt⟩ := holds_iff.mp opened.holds
    obtain ⟨inspected, passed⟩ := (inspect_eq_ok_iff world).mpr few
    have accessKeyFits := opened.accessKeyFits
    have dataKeyOpens := opened.dataKeyOpens
    rw [← salt] at accessKeyFits dataKeyOpens
    let asked : Mark := .asked ((content? .salt layers.container.packets).getD [])
    obtain ⟨decoded, done⟩ := (Bundle.decode_eq_ok_iff { inspected with trace := inspected.trace.push asked }).mpr
      ⟨layers.inner, opened.innerParsed, opened.described⟩
    refine ⟨_, data, _, ⟨contents, rfl⟩, layers.container, _, ⟨opened.parsed, header, rfl⟩, (), inspected, passed,
      layers.wrappedKey, _, ⟨dataKeyFound, rfl⟩, layers.sealedBundle, _, ⟨bundleFound, rfl⟩, _, _,
      ⟨rfl, accessKeyFits, rfl⟩, layers.dataKey, _, ⟨dataKeyOpens, rfl⟩, opened.dataKeyFits,
      layers.plain, _, ⟨opened.bundleOpens, rfl⟩, layers.bundle, decoded, done, (), _, rfl, ?_, rfl⟩
    rw [Layers.ring, salt]

/-- Reading accepts the valid keyrings and nothing else, and makes of them what their layers say. In which
world a bundle is decoded does not matter. -/
theorem read_accepts_iff (source : Source) (credential : Credential) (ring : Ring) (world begun : World) :
    (∃ later, read source credential world = .ok ring later) ↔
      ∃ (data : Bytes) (container : Container) (salt wrappedKey sealedBundle : Bytes)
        (keyNonce bundleNonce dataKey plain : Bytes) (bundle : Bundle),
        source.contents = .ok data ∧
        Container.parse data = .ok container ∧
        container.Holds salt wrappedKey sealedBundle ∧
        (credential.key salt).length = Credential.keyLength ∧
        keyNonce.length = Sealing.nonceLength ∧ bundleNonce.length = Sealing.nonceLength ∧
        dataKey.length = dataKeyLength ∧
        Sealing.sealWith (credential.key salt) keyNonce dataKey [] = .ok wrappedKey ∧
        Sealing.sealWith dataKey bundleNonce plain [] = .ok sealedBundle ∧
        (∃ ended, Bundle.decode plain begun = .ok bundle ended) ∧
        ring =
          { header := .current, salt := salt, wrappedKey := wrappedKey, dataKey := ⟨dataKey⟩,
            view := bundle.view, maxId := bundle.view.keys.maxId,
            extras := Bundle.unknownAmong container.packets, bundleExtras := bundle.extras } := by
  rw [read_eq_ok_iff world]
  constructor
  · rintro ⟨data, layers, contents, opened, rfl⟩
    obtain ⟨keyNonce, keyNonceFits, keySealed⟩ := Sealing.openWith_eq_ok_iff.mp opened.dataKeyOpens
    obtain ⟨bundleNonce, bundleNonceFits, bundleSealed⟩ := Sealing.openWith_eq_ok_iff.mp opened.bundleOpens
    have decoded := (Bundle.decode_eq_ok_iff begun).mpr ⟨layers.inner, opened.innerParsed, opened.described⟩
    refine ⟨data, layers.container, layers.salt, layers.wrappedKey, layers.sealedBundle, keyNonce, bundleNonce,
      layers.dataKey, layers.plain, layers.bundle, contents, opened.parsed, opened.holds, opened.accessKeyFits,
      keyNonceFits, bundleNonceFits, opened.dataKeyFits, keySealed, bundleSealed, decoded, ?_⟩
    rw [Layers.ring, opened.holds.header]
  · intro given
    obtain ⟨data, container, salt, wrappedKey, sealedBundle, keyNonce, bundleNonce, dataKey, plain, bundle,
      contents, parsed, holds, accessKeyFits, keyNonceFits, bundleNonceFits, dataKeyFits, keySealed, bundleSealed,
      decoded, rfl⟩ := given
    obtain ⟨inner, innerParsed, described⟩ := (Bundle.decode_eq_ok_iff begun).mp decoded
    have dataKeyOpens := Sealing.openWith_eq_ok_iff.mpr ⟨keyNonce, keyNonceFits, keySealed⟩
    have bundleOpens := Sealing.openWith_eq_ok_iff.mpr ⟨bundleNonce, bundleNonceFits, bundleSealed⟩
    refine ⟨data, ⟨container, salt, wrappedKey, sealedBundle, dataKey, plain, inner, bundle⟩, contents,
      ⟨parsed, holds, accessKeyFits, dataKeyOpens, dataKeyFits, bundleOpens, innerParsed, described⟩, ?_⟩
    rw [Layers.ring, holds.header]

end Ring

end Keyring
