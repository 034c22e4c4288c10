import Keyring.Proofs.Opening
import Keyring.Proofs.RoundTrip

namespace Keyring

theorem Credential.length_passphrase (text : String) (salt : Bytes) :
    (key (.passphrase text) salt).length = keyLength :=
  Derivation.length_extracted _ salt keyLength

namespace Ring

/-- Opens the layers of a container that is in order. -/
def openLayers (container : Container) (credential : Credential) (salt wrappedKey sealedBundle : Bytes) :
    RingAction Ring := do
  let accessKey ← ask credential salt
  let dataKey ← openContent accessKey wrappedKey
  if dataKey.length ≠ dataKeyLength then
    Action.fail (.dataKeyLength dataKey.length)
  let plain ← openContent dataKey sealedBundle
  let bundle ← Bundle.decode plain
  let extras := Bundle.unknownAmong container.packets
  Action.log
    (.ofRing .debug "read keyring"
      [("keys", toString bundle.view.length), ("active", toString bundle.view.activeId.toNat),
        ("unknown", toString (extras.length + bundle.extras.length))])
  return {
    header := container.header
    salt := salt
    wrappedKey := wrappedKey
    dataKey := ⟨dataKey⟩
    view := bundle.view
    maxId := bundle.view.keys.maxId
    extras := extras
    bundleExtras := bundle.extras }

/-- A container in order, and what has to be opened of it. -/
structure Found where
  container : Container
  salt : Bytes
  wrappedKey : Bytes
  sealedBundle : Bytes

/-- What reading does before it asks the credential. -/
def find (source : Source) : RingAction Found := do
  let data ← Action.ofExcept (source.contents.mapError .io)
  let container ← parseSupported data
  inspect [] container.packets
  let wrappedKey ← required .dataKey container.packets
  let sealedBundle ← required .bundle container.packets
  return ⟨container, (content? .salt container.packets).getD [], wrappedKey, sealedBundle⟩

/-- Opens what was found. -/
def Found.unlock (found : Found) (credential : Credential) : RingAction Ring :=
  openLayers found.container credential found.salt found.wrappedKey found.sealedBundle

/-- Reading finds a container in order, and then opens it. -/
theorem read_eq_find (source : Source) (credential : Credential) :
    read source credential = find source >>= fun found => found.unlock credential := by
  unfold read find Found.unlock openLayers
  simp only [bind_assoc, pure_bind]

/-- What is found is in order, and what is in order is found. -/
theorem find_eq_ok_iff {source : Source} (found : Found) (begun : World) :
    (∃ later, find source begun = .ok found later) ↔
      ∃ data, source.contents = .ok data ∧ Container.parse data = .ok found.container ∧
        found.container.Holds found.salt found.wrappedKey found.sealedBundle := by
  unfold find
  simp only [Action.bind_eq_ok, Action.ofExcept_eq_ok, Action.pure_eq_ok, Outcome.mapError_eq_ok, parseSupported_eq_ok,
    required_eq_ok, holds_iff]
  constructor
  · intro finished
    obtain ⟨_, data, _, ⟨contents, rfl⟩, container, _, ⟨parsed, header, rfl⟩, _, inspected, passed,
      wrappedKey, _, ⟨dataKeyFound, rfl⟩, sealedBundle, _, ⟨bundleFound, rfl⟩, rfl, rfl⟩ := finished
    exact ⟨data, contents, parsed, header, (inspect_eq_ok_iff begun).mp ⟨_, passed⟩, dataKeyFound, bundleFound, rfl⟩
  · rintro ⟨data, contents, parsed, header, few, dataKeyFound, bundleFound, salt⟩
    obtain ⟨inspected, passed⟩ := (inspect_eq_ok_iff begun).mpr few
    refine ⟨inspected, data, begun, ⟨contents, rfl⟩, found.container, begun, ⟨parsed, header, rfl⟩, (), inspected,
      passed, found.wrappedKey, inspected, ⟨dataKeyFound, rfl⟩, found.sealedBundle, inspected, ⟨bundleFound, rfl⟩,
      ?_, rfl⟩
    rw [salt]

section Opening

variable {source : Source} {data salt wrappedKey sealedBundle : Bytes}
  {container : Container}

theorem bytes_of_contents (contents : source.contents = .ok data) (begun : World) :
    (Action.ofExcept (source.contents.mapError .io) : RingAction Bytes) begun = .ok data begun :=
  Action.ofExcept_eq_ok.mpr ⟨Outcome.mapError_eq_ok.mpr contents, rfl⟩

/-- Of a container that is in order, nothing is left to do but to open its layers. -/
theorem read_eq_openLayers_of_inspect (contents : source.contents = .ok data)
    (parsed : Container.parse data = .ok container) (holds : container.Holds salt wrappedKey sealedBundle)
    (credential : Credential) {begun inspected : World}
    (passed : inspect [] container.packets begun = .ok () inspected) :
    read source credential begun = openLayers container credential salt wrappedKey sealedBundle inspected := by
  obtain ⟨header, -, dataKeyFound, bundleFound, rfl⟩ := holds_iff.mp holds
  have given := bytes_of_contents contents begun
  have supported : parseSupported data begun = .ok container begun :=
    parseSupported_eq_ok.mpr ⟨parsed, header, rfl⟩
  have foundKey : required .dataKey container.packets inspected = .ok wrappedKey inspected :=
    required_eq_ok.mpr ⟨dataKeyFound, rfl⟩
  have foundBundle : required .bundle container.packets inspected = .ok sealedBundle inspected :=
    required_eq_ok.mpr ⟨bundleFound, rfl⟩
  rw [read, Action.bind_of_ok given, Action.bind_of_ok supported, Action.bind_of_ok passed,
    Action.bind_of_ok foundKey, Action.bind_of_ok foundBundle]
  rfl

theorem read_eq_openLayers (contents : source.contents = .ok data) (parsed : Container.parse data = .ok container)
    (holds : container.Holds salt wrappedKey sealedBundle) (credential : Credential) (begun : World) :
    ∃ inspected, read source credential begun =
      openLayers container credential salt wrappedKey sealedBundle inspected := by
  obtain ⟨inspected, done⟩ := (find_eq_ok_iff ⟨container, salt, wrappedKey, sealedBundle⟩ begun).mpr
    ⟨data, contents, parsed, holds⟩
  exact ⟨inspected, by rw [read_eq_find, Action.bind_of_ok done]; rfl⟩

/-- An access key of the wrong length opens nothing. -/
theorem openLayers_of_length {credential : Credential} (short : (credential.key salt).length ≠ Credential.keyLength)
    (world : World) :
    openLayers container credential salt wrappedKey sealedBundle world =
      .error (.error (.accessKeyLength (credential.key salt).length))
        { world with trace := world.trace.push (.asked salt) } := by
  have asked : ask credential salt world = .error (.error (.accessKeyLength (credential.key salt).length))
      { world with trace := world.trace.push (.asked salt) } := by
    have recorded : (Action.record (.asked salt) : RingAction Unit) world =
      .ok () { world with trace := world.trace.push (.asked salt) } := rfl
    rw [ask, Action.bind_of_ok recorded, checkAccessKey, if_neg short]
    rfl
  rw [openLayers, Action.bind_of_error asked]

/-- What the access key does not open is refused. -/
theorem openLayers_of_closed {credential : Credential} (fits : (credential.key salt).length = Credential.keyLength)
    (closed : Sealing.openWith (credential.key salt) wrappedKey [] = .error .refused) (world : World) :
    openLayers container credential salt wrappedKey sealedBundle world =
      .error (.error .refused) { world with trace := world.trace.push (.asked salt) } := by
  have asked : ask credential salt world =
      .ok (credential.key salt) { world with trace := world.trace.push (.asked salt) } :=
    ask_eq_ok.mpr ⟨rfl, fits, rfl⟩
  have refused : openContent (credential.key salt) wrappedKey { world with trace := world.trace.push (.asked salt) } =
      .error (.error .refused) { world with trace := world.trace.push (.asked salt) } := by
    rw [openContent, closed]
    rfl
  rw [openLayers, Action.bind_of_ok asked, Action.bind_of_error refused]

end Opening

end Ring

end Keyring
