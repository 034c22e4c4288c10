import Keyring.Proofs.Calls

namespace Keyring.Ring

/-- A change that a call makes to a ring. -/
inductive Change where
  | added (entry : Entry)
  | activated (id : KeyId)
  | rekeyed (accessKey : Bytes) (salt : Option Bytes)

namespace Change

def accessKey (current : Bytes) : Change → Bytes
  | rekeyed accessKey _ => accessKey
  | _ => current

def salt (current : Bytes) : Change → Bytes
  | rekeyed _ salt => salt.getD current
  | _ => current

def activeId (current : KeyId) : Change → KeyId
  | activated id => id
  | _ => current

def entry? : Change → Option Entry
  | added entry => some entry
  | _ => none

def isRekey : Change → Bool
  | rekeyed _ _ => true
  | _ => false

end Change

inductive Call where
  | add (key : Bytes)
  | addRandom (length : Nat)
  | activate (id : KeyId)
  | rekey (accessKey : Bytes) (salt : Option Bytes)
  | write (sink : Sink)

/-- Makes a call, and gives the changes with the ring that it leaves. -/
def Call.perform (ring : Ring) : Call → RingAction (List Change × Ring)
  | .add key => do
    let (id, next) ← ring.add key
    return ([.added ⟨id, key⟩], next)
  | .addRandom length => do
    let world ← get
    let (id, next) ← ring.addRandom length
    return ([.added ⟨id, world.supply.segment world.supply.drawn length⟩], next)
  | .activate id => do
    let next ← ring.activate id
    return ([.activated id], next)
  | .rekey accessKey salt => do
    let next ← ring.rekey accessKey salt
    return ([.rekeyed accessKey salt], next)
  | .write sink => do
    let _ ← ring.write sink
    return ([], ring)

/-- The rings that calls lead to, each call in any world, with the changes they made in order. A call that
fails leaves the ring as it was. -/
inductive Course (start : Ring) : List Change → Ring → Prop
  | start : Course start [] start
  | done {changes made : List Change} {ring next : Ring} {call : Call} {world later : World} :
      Course start changes ring → call.perform ring world = .ok (made, next) later →
      Course start (changes ++ made) next
  | failed {changes : List Change} {ring : Ring} {call : Call} {world later : World}
      {failure : Failure RingError} :
      Course start changes ring → call.perform ring world = .error failure later → Course start changes ring

/-- The rings that a course can start from, with their access keys. -/
inductive Origin : Ring → Bytes → Prop
  | new {config : Config} {ring : Ring} {world later : World} :
      new config world = .ok ring later → Origin ring config.accessKey
  | read {source : Source} {credential : Credential} {ring : Ring} {world later : World} :
      read source credential world = .ok ring later → Origin ring (credential.key ring.salt)

/-- All that a call can do to a ring. -/
inductive Effect (ring : Ring) : List Change → Ring → Prop
  | added {key : Bytes} : key ≠ [] → ring.maxId ≠ maxKeyId →
      Effect ring [.added ⟨ring.maxId + 1, key⟩]
        { ring with view := ring.view.insert ⟨ring.maxId + 1, key⟩, maxId := ring.maxId + 1 }
  | activated {id : KeyId} {view : Snapshot} : ring.view.activate id = .ok view →
      Effect ring [.activated id] { ring with view := view }
  | rekeyed {accessKey wrappedKey : Bytes} {salt : Option Bytes} :
      Sealing.openWith accessKey wrappedKey [] = .ok ring.dataKey.bytes →
      Effect ring [.rekeyed accessKey salt] { ring with wrappedKey := wrappedKey, salt := salt.getD ring.salt }
  | nothing : Effect ring [] ring

theorem Effect.of_add {ring next : Ring} {key : Bytes} {id : KeyId} {world later : World}
    (added : ring.add key world = .ok (id, next) later) : Effect ring [.added ⟨id, key⟩] next := by
  obtain ⟨nonempty, room, rfl, rfl⟩ := (add_eq_ok_iff world).mp ⟨later, added⟩
  exact .added nonempty room

theorem Call.effect {ring next : Ring} {call : Call} {made : List Change} {world later : World}
    (performed : call.perform ring world = .ok (made, next) later) : Effect ring made next := by
  cases call with
  | add key =>
    simp only [perform, Action.bind_eq_ok, Action.pure_eq_ok] at performed
    obtain ⟨⟨id, found⟩, _, added, same, _⟩ := performed
    cases same
    exact .of_add added
  | addRandom length =>
    simp only [perform, Action.bind_eq_ok, Action.get_eq_ok, Action.pure_eq_ok] at performed
    obtain ⟨_, _, ⟨rfl, rfl⟩, ⟨id, found⟩, _, added, same, _⟩ := performed
    cases same
    obtain ⟨_, _, finished⟩ := (addRandom_eq_ok_iff world).mp ⟨_, added⟩
    exact .of_add finished
  | activate id =>
    simp only [perform, Action.bind_eq_ok, Action.pure_eq_ok] at performed
    obtain ⟨found, _, activated, same, _⟩ := performed
    cases same
    obtain ⟨view, found, rfl⟩ := (activate_eq_ok_iff world).mp ⟨_, activated⟩
    exact .activated found
  | rekey accessKey salt =>
    simp only [perform, Action.bind_eq_ok, Action.pure_eq_ok] at performed
    obtain ⟨found, _, rekeyed, same, _⟩ := performed
    cases same
    obtain ⟨_, wrappedKey, wrapped, rfl⟩ := (rekey_eq_ok_iff world).mp ⟨_, rekeyed⟩
    exact .rekeyed (Sealing.openWith_eq_ok_iff.mpr ⟨_, Supply.length_segment _ _ _, wrapped⟩)
  | write sink =>
    simp only [perform, Action.bind_eq_ok, Action.pure_eq_ok] at performed
    obtain ⟨_, _, _, same, _⟩ := performed
    cases same
    exact .nothing

/-- What holds at the start and through every effect holds all along a course. -/
theorem Course.preserves {start ring : Ring} {changes : List Change} (course : Course start changes ring)
    (holds : List Change → Ring → Prop) (atStart : holds [] start)
    (through : ∀ {before : List Change} {ring next : Ring} {made : List Change},
      holds before ring → Effect ring made next → holds (before ++ made) next) : holds changes ring := by
  induction course with
  | start => exact atStart
  | done _ performed ih => exact through ih (Call.effect performed)
  | failed _ _ ih => exact ih

section Extension

variable {start ring next : Ring} {changes : List Change} {world later : World}

theorem Course.add {key : Bytes} {id : KeyId} (course : Course start changes ring)
    (added : ring.add key world = .ok (id, next) later) : Course start (changes ++ [.added ⟨id, key⟩]) next := by
  have performed : Call.perform ring (.add key) world = .ok ([.added ⟨id, key⟩], next) later := by
    simp only [Call.perform, Action.bind_eq_ok, Action.pure_eq_ok]
    exact ⟨_, later, added, rfl, rfl⟩
  exact course.done performed

theorem Course.activate {id : KeyId} (course : Course start changes ring)
    (activated : ring.activate id world = .ok next later) : Course start (changes ++ [.activated id]) next := by
  have performed : Call.perform ring (.activate id) world = .ok ([.activated id], next) later := by
    simp only [Call.perform, Action.bind_eq_ok, Action.pure_eq_ok]
    exact ⟨_, later, activated, rfl, rfl⟩
  exact course.done performed

theorem Course.rekey {accessKey : Bytes} {salt : Option Bytes} (course : Course start changes ring)
    (rekeyed : ring.rekey accessKey salt world = .ok next later) :
    Course start (changes ++ [.rekeyed accessKey salt]) next := by
  have performed : Call.perform ring (.rekey accessKey salt) world = .ok ([.rekeyed accessKey salt], next) later := by
    simp only [Call.perform, Action.bind_eq_ok, Action.pure_eq_ok]
    exact ⟨_, later, rekeyed, rfl, rfl⟩
  exact course.done performed

/-- A world whose random bytes start with the given ones. -/
def worldFrom (bytes : Bytes) : World :=
  ⟨⟨(bytes.getD · 0), 0, none⟩, #[]⟩

theorem segment_worldFrom (bytes : Bytes) : (worldFrom bytes).supply.segment 0 bytes.length = bytes := by
  apply List.ext_getElem
  · simp [Supply.segment]
  · intro i _ inside
    simp [Supply.segment, worldFrom, inside]

/-- Every effect is that of some call in some world. -/
theorem Course.step {made : List Change} (course : Course start changes ring) (effect : Effect ring made next) :
    Course start (changes ++ made) next := by
  cases effect with
  | added nonempty room =>
    obtain ⟨_, added⟩ := (add_eq_ok_iff (worldFrom [])).mpr ⟨nonempty, room, rfl, rfl⟩
    exact course.add added
  | activated found =>
    obtain ⟨_, activated⟩ := (activate_eq_ok_iff (worldFrom [])).mpr ⟨_, found, rfl⟩
    exact course.activate activated
  | @rekeyed accessKey wrappedKey salt opens =>
    obtain ⟨nonce, nonceFits, wrapped⟩ := Sealing.openWith_eq_ok_iff.mp opens
    have drawn : (worldFrom nonce).supply.segment (worldFrom nonce).supply.drawn Sealing.nonceLength = nonce := by
      rw [← nonceFits]
      exact segment_worldFrom nonce
    have enough : (worldFrom nonce).supply.Has Sealing.nonceLength := ⟨by decide, by simp [worldFrom]⟩
    rw [← drawn] at wrapped
    obtain ⟨_, rekeyed⟩ := (rekey_eq_ok_iff (worldFrom nonce)).mpr ⟨enough, wrappedKey, wrapped, rfl⟩
    exact course.rekey rekeyed
  | nothing =>
    rw [List.append_nil]
    exact course

end Extension

/-- A ring whose parts agree with each other, and whose data key an access key opens. -/
structure WellFormed (ring : Ring) (accessKey : Bytes) : Prop where
  header : ring.header = .current
  ascending : KeySet.Ascending ring.view.keys.entries
  nonzero : ∀ entry ∈ ring.view.keys.entries, entry.id ≠ 0
  maxId : ring.maxId = ring.view.keys.maxId
  dataKeyFits : ring.dataKey.bytes.length = dataKeyLength
  opens : Sealing.openWith accessKey ring.wrappedKey [] = .ok ring.dataKey.bytes
  extras : ∀ packet ∈ ring.extras, packet.type.role = .unknown ∧ packet.Fits
  bundleExtras : ∀ packet ∈ ring.bundleExtras, packet.type.role = .unknown ∧ packet.Fits

theorem Layers.wellFormed {layers : Layers} {data : Bytes} {credential : Credential}
    (opened : Layers.Of layers data credential) : layers.ring.WellFormed (credential.key layers.salt) := by
  have containerFits := (Container.parse_eq_ok_iff.mp opened.parsed).2
  have innerFits := (Packet.parseAll_eq_ok_iff.mp opened.innerParsed).2
  refine ⟨opened.holds.header, opened.described.ascending, ?_, rfl, opened.dataKeyFits, opened.dataKeyOpens, ?_, ?_⟩
  · intro entry member
    exact Bundle.nonzero_of_mem_entries (opened.described.perm.mem_iff.mp member)
  · intro packet member
    obtain ⟨inside, unknown⟩ := Bundle.mem_unknownAmong.mp member
    exact ⟨unknown, containerFits packet inside⟩
  · intro packet member
    have kept : packet ∈ layers.bundle.extras := member
    rw [opened.described.extras] at kept
    obtain ⟨inside, unknown⟩ := Bundle.mem_unknownAmong.mp kept
    exact ⟨unknown, innerFits packet inside⟩

theorem Origin.wellFormed {ring : Ring} {accessKey : Bytes} (origin : Origin ring accessKey) :
    ring.WellFormed accessKey := by
  cases origin with
  | @new config ring world later made =>
    obtain ⟨nonempty, enough, more, wrappedKey, wrapped, rfl⟩ := (new_eq_ok_iff world).mp ⟨later, made⟩
    have opens := Sealing.openWith_eq_ok_iff.mpr ⟨_, Supply.length_segment _ _ _, wrapped⟩
    refine ⟨rfl, ?_, ?_, rfl, Supply.length_segment _ _ _, opens, ?_, ?_⟩
    · exact List.pairwise_singleton _ _
    · intro entry member
      rw [List.mem_singleton.mp member]
      change (1 : KeyId) ≠ 0
      decide
    · simp
    · simp
  | @read source credential ring world later accepted =>
    obtain ⟨data, layers, _, opened, rfl⟩ := (read_eq_ok_iff world).mp ⟨later, accepted⟩
    exact Layers.wellFormed opened

section Step

variable {ring next : Ring} {accessKey : Bytes}

/-- The next id is above all that are stored. -/
theorem WellFormed.lt_next (formed : ring.WellFormed accessKey) (room : ring.maxId ≠ maxKeyId) :
    ∀ entry ∈ ring.view.keys.entries, entry.id < ring.maxId + 1 := by
  intro entry member
  have bound := KeySet.le_maxId formed.ascending member
  rw [← formed.maxId] at bound
  have below : ring.maxId.toNat ≠ maxKeyId.toNat := fun same => room (UInt32.toNat_inj.mp same)
  have limit := ring.maxId.toNat_lt
  simp only [maxKeyId, UInt32.le_iff_toNat_le, UInt32.lt_iff_toNat_lt, UInt32.toNat_add, UInt32.toNat_ofNat]
    at below bound ⊢
  omega

theorem WellFormed.effect {made : List Change} (formed : ring.WellFormed accessKey) (effect : Effect ring made next) :
    next.WellFormed (made.foldl Change.accessKey accessKey) := by
  cases effect with
  | @added key nonempty room =>
    have above : ∀ other ∈ ring.view.keys.entries, other.id < (⟨ring.maxId + 1, key⟩ : Entry).id :=
      formed.lt_next room
    have entries := Snapshot.entries_insert_above above
    refine ⟨formed.header, ?_, ?_, ?_, formed.dataKeyFits, formed.opens, formed.extras, formed.bundleExtras⟩
    · rw [entries]
      exact KeySet.Ascending.append above formed.ascending
    · rw [entries]
      intro entry member
      rcases List.mem_append.mp member with old | new
      · exact formed.nonzero entry old
      · rw [List.mem_singleton.mp new]
        intro zero
        have below := above ring.view.activeEntry (List.get_mem _ _)
        rw [zero] at below
        exact UInt32.not_lt_zero below
    · rw [KeySet.maxId, entries, List.getLast?_concat]
  | @activated id view activated =>
    obtain ⟨_, sameKeys⟩ := Snapshot.activate_eq_ok_iff.mp activated
    refine ⟨formed.header, ?_, ?_, ?_, formed.dataKeyFits, formed.opens, formed.extras, formed.bundleExtras⟩
    · rw [sameKeys]
      exact formed.ascending
    · rw [sameKeys]
      exact formed.nonzero
    · rw [sameKeys]
      exact formed.maxId
  | rekeyed opens =>
    exact ⟨formed.header, formed.ascending, formed.nonzero, formed.maxId, formed.dataKeyFits, opens,
      formed.extras, formed.bundleExtras⟩
  | nothing => exact formed

end Step

section Sample

/-- A ring with one key, as it is made in a world of zeros. -/
def sample : Ring where
  header := .current
  salt := []
  wrappedKey := Sealing.envelope (List.replicate 32 1) (List.replicate 24 0) (List.replicate 32 0) []
  dataKey := ⟨List.replicate 32 0⟩
  view := .single [7]
  maxId := 1
  extras := []
  bundleExtras := []

/-- The sample with one more key, under another access key. -/
def sampleLater : Ring :=
  { sample with
    view := sample.view.insert ⟨2, [8]⟩
    maxId := 2
    wrappedKey := Sealing.envelope (List.replicate 32 2) (List.replicate 24 0) (List.replicate 32 0) []
    salt := [9] }

/-- The sample can be made with any salt. -/
theorem sample_origin_of_salt (salt : Option Bytes) :
    Origin { sample with salt := salt.getD [] } (List.replicate 32 1) := by
  have wrapped : Sealing.sealWith (List.replicate 32 1) (List.replicate 24 0) (List.replicate 32 0) [] =
      .ok sample.wrappedKey := Sealing.sealWith_envelope _ _ rfl rfl
  have made : ∃ later, new ⟨[7], List.replicate 32 1, salt⟩ (worldFrom []) =
      .ok { sample with salt := salt.getD [] } later :=
    (new_eq_ok_iff (worldFrom [])).mpr ⟨by simp, ⟨by decide, by simp [worldFrom]⟩,
      ⟨by decide, by simp [worldFrom, Supply.after]⟩, _, wrapped, rfl⟩
  obtain ⟨_, made⟩ := made
  exact .new made

theorem sample_origin : Origin sample (List.replicate 32 1) :=
  sample_origin_of_salt none

theorem sample_course :
    Course sample [.added ⟨2, [8]⟩, .rekeyed (List.replicate 32 2) (some [9])] sampleLater := by
  have nonempty : [(8 : UInt8)] ≠ [] := by simp
  have room : sample.maxId ≠ maxKeyId := by decide
  have rewrapped : Sealing.openWith (List.replicate 32 2) sampleLater.wrappedKey [] = .ok sample.dataKey.bytes :=
    Sealing.openWith_envelope [] rfl rfl rfl
  exact (Course.start.step (.added nonempty room)).step (.rekeyed rewrapped)

end Sample

section Run

variable {start ring : Ring} {changes : List Change} {accessKey : Bytes}

theorem Course.wellFormed (course : Course start changes ring) (formed : start.WellFormed accessKey) :
    ring.WellFormed (changes.foldl Change.accessKey accessKey) := by
  refine course.preserves (fun changes ring => ring.WellFormed (changes.foldl Change.accessKey accessKey)) formed ?_
  intro before ring next made formed effect
  rw [List.foldl_append]
  exact formed.effect effect

/-- What holds of every ring, however it came about. -/
theorem Course.representation_invariant (origin : Origin start accessKey) (course : Course start changes ring) :
    ring.header.version = 1 ∧ ring.header.reserved = (0, 0) ∧
      (∀ id ∈ ring.view.ids, id ≠ 0) ∧ ring.view.ids.Pairwise (· < ·) ∧
      ring.view.ids ≠ [] ∧ ring.view.active < ring.view.ids.length ∧ ring.activeId ∈ ring.view.ids ∧
      ring.maxId ∈ ring.view.ids ∧ (∀ id ∈ ring.view.ids, id ≤ ring.maxId) ∧
      ring.dataKey.length = 32 ∧ ring.wrappedKey.length = 72 ∧
      Sealing.openWith (changes.foldl Change.accessKey accessKey) ring.wrappedKey [] = .ok ring.dataKey.bytes ∧
      ∀ packet ∈ ring.extras ++ ring.bundleExtras,
        packet.type.isKnown = false ∧ packet.content.length ≤ max24 := by
  have formed := course.wellFormed origin.wellFormed
  have stored := ring.view.entries_ne_nil
  have size : ring.wrappedKey.length = 72 := by
    rw [Sealing.length_of_openWith formed.opens, formed.dataKeyFits]
    rfl
  refine ⟨by rw [formed.header]; rfl, by rw [formed.header]; rfl, ?_, List.pairwise_map.mpr formed.ascending, ?_, ?_,
    ring.view.activeId_mem, ?_, ?_, formed.dataKeyFits, size, formed.opens, ?_⟩
  · intro id member
    obtain ⟨entry, inside, rfl⟩ := List.mem_map.mp member
    exact formed.nonzero entry inside
  · simpa [Snapshot.ids, KeySet.ids] using stored
  · simpa [Snapshot.ids, KeySet.ids, KeySet.length] using ring.view.active_lt
  · rw [formed.maxId]
    exact KeySet.maxId_mem stored
  · intro id member
    obtain ⟨entry, inside, rfl⟩ := List.mem_map.mp member
    rw [formed.maxId]
    exact KeySet.le_maxId formed.ascending inside
  · intro packet member
    have kept : packet.type.role = .unknown ∧ packet.Fits :=
      (List.mem_append.mp member).elim (formed.extras packet) (formed.bundleExtras packet)
    exact ⟨by simp [PacketType.isKnown, kept.1], kept.2⟩

theorem Course.representation_invariant_sampleLater :
    sampleLater.view.ids.Pairwise (· < ·) ∧ sampleLater.maxId ∈ sampleLater.view.ids ∧
      sampleLater.wrappedKey.length = 72 ∧
      Sealing.openWith (List.replicate 32 2) sampleLater.wrappedKey [] = .ok sampleLater.dataKey.bytes := by
  obtain ⟨_, _, _, ascending, _, _, _, largest, _, _, size, opens, _⟩ :=
    Course.representation_invariant sample_origin sample_course
  exact ⟨ascending, largest, size, opens⟩

end Run

end Keyring.Ring
