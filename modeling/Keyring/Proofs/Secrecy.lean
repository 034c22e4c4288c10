import Keyring.Proofs.Rereading

namespace Keyring

/-- Configurations that differ in nothing but the bytes of their keys. -/
def Config.Alike (config other : Config) : Prop :=
  SameLength config.initialKey other.initialKey ∧ SameLength config.accessKey other.accessKey ∧
    config.salt = other.salt

/-- Credentials of one kind. A key has the same length, and a stretched passphrase takes as many rounds. -/
inductive Credential.Alike : Credential → Credential → Prop
  | fixed {key other : Secret} : SameLength key.bytes other.bytes → Alike (.fixed key) (.fixed other)
  | passphrase (text other : String) : Alike (.passphrase text) (.passphrase other)
  | stretched (text other : String) (rounds : Nat) : Alike (.stretched text rounds) (.stretched other rounds)
  | rule (key other : Bytes → Bytes) : Alike (.rule key) (.rule other)

namespace Secrecy

open Keyring.Action

/-- A file that was written, with the ring it was written of and the access key of that time. -/
structure Saved where
  content : Bytes
  ring : Ring
  accessKey : Bytes

/-- A ring with its current access key, and the last file. -/
structure Held where
  ring : Ring
  accessKey : Bytes
  saved : Option Saved

/-- What a caller has at hand. -/
structure Holder where
  held : Option Held
  views : List Snapshot

/-- What a caller can do. -/
inductive Step where
  | new (config : Config)
  | add (key : Bytes)
  | addRandom (length : Nat)
  | activate (id : KeyId)
  | rekey (accessKey : Bytes) (salt : Option Bytes)
  | write (sink : Sink)
  | readBack (source : Credential)
  | has (id : KeyId)
  | view
  | debugRing
  | debugView (index : Nat)
  | debugSource (source : Credential)
  | debugConfig (config : Config)

/-- What a caller is told. -/
inductive Reply where
  | done
  | id (id : KeyId)
  | flag (value : Bool)
  | written (outcome : Except IoFailure Nat)
  | text (text : String)
  /-- There is nothing to do it with. -/
  | nothing
  deriving DecidableEq

namespace Holder

def empty : Holder :=
  ⟨none, []⟩

def saved (holder : Holder) : Option Saved :=
  holder.held.bind Held.saved

def onRing (holder : Holder) (act : Held → RingAction (Reply × Holder)) : RingAction (Reply × Holder) :=
  match holder.held with
  | some held => act held
  | none => pure (.nothing, holder)

def viewText (holder : Holder) (index : Nat) : Reply :=
  match holder.views[index]? with
  | some view => .text view.summary
  | none => .nothing

end Holder

/-- Does one thing. The file is what the sink has received of the last write. -/
def Step.act (holder : Holder) : Step → RingAction (Reply × Holder)
  | new config => do
    let ring ← Ring.new config
    return (.done, { holder with held := some ⟨ring, config.accessKey, holder.saved⟩ })
  | add key => holder.onRing fun held => do
    let (id, next) ← held.ring.add key
    return (.id id, { holder with held := some { held with ring := next } })
  | addRandom length => holder.onRing fun held => do
    let (id, next) ← held.ring.addRandom length
    return (.id id, { holder with held := some { held with ring := next } })
  | activate id => holder.onRing fun held => do
    let next ← held.ring.activate id
    return (.done, { holder with held := some { held with ring := next } })
  | rekey accessKey salt => holder.onRing fun held => do
    let next ← held.ring.rekey accessKey salt
    return (.done, { holder with held := some ⟨next, accessKey, held.saved⟩ })
  | write sink => holder.onRing fun held => do
    let delivery ← held.ring.write sink
    let saved := ⟨delivery.received, held.ring, held.accessKey⟩
    return (.written delivery.written, { holder with held := some { held with saved := some saved } })
  | readBack source => holder.onRing fun held =>
    match held.saved with
    | some saved => do
      let ring ← Ring.read (.ofBytes saved.content) source
      return (.done, { holder with held := some ⟨ring, source.key ring.salt, held.saved⟩ })
    | none => pure (.nothing, holder)
  | has id => holder.onRing fun held => pure (.flag (held.ring.has id), holder)
  | view => holder.onRing fun held => pure (.done, { holder with views := holder.views ++ [held.ring.view] })
  | debugRing => holder.onRing fun held => pure (.text held.ring.summary, holder)
  | debugView index => pure (holder.viewText index, holder)
  | debugSource source => pure (.text source.summary, holder)
  | debugConfig config => pure (.text config.summary, holder)

/-- What anyone may see of a snapshot. -/
structure Standing where
  ids : List KeyId
  activeId : KeyId
  count : Nat
  deriving DecidableEq

def standing (view : Snapshot) : Standing :=
  ⟨view.ids, view.activeId, view.length⟩

/-- What comes of a step: the reply or the failure, what was logged, and what may be seen afterwards. -/
structure Report where
  outcome : Except (Failure RingError) Reply
  events : List Event
  ring : Option (Standing × KeyId)
  views : List Standing
  fileLength : Option Nat

def event? : Mark → Option Event
  | .event event => some event
  | _ => none

def Holder.report (holder : Holder) (outcome : Except (Failure RingError) Reply) (before later : World) : Report where
  outcome := outcome
  events := (later.trace.toList.drop before.trace.size).filterMap event?
  ring := holder.held.map fun held => (standing held.ring.view, held.ring.maxId)
  views := holder.views.map standing
  fileLength := holder.saved.map fun saved => saved.content.length

/-- Does one thing and reports on it. A step that fails leaves everything as it was. -/
def Step.perform (step : Step) (holder : Holder) (world : World) : Report × Holder × World :=
  match step.act holder world with
  | .ok (reply, next) later => (next.report (.ok reply) world later, next, later)
  | .error failure later => (holder.report (.error failure) world later, holder, later)

def run : List Step → Holder → World → List Report
  | [], _, _ => []
  | step :: rest, holder, world =>
    let (report, next, later) := step.perform holder world
    report :: run rest next later

/-- What kind of key the last file is read back with. -/
inductive Trial where
  /-- The current access key, under which the file was written. -/
  | fitting
  /-- The current access key, which does not open the file's data key. -/
  | shut
  /-- The current access key, which opens the file's data key by chance. -/
  | chance
  /-- Another key than the current access key. -/
  | foreign
  deriving DecidableEq

def Held.trial (held : Held) (saved : Saved) (source : Credential) : Trial :=
  if source.key saved.ring.salt ≠ held.accessKey then .foreign
  else if held.accessKey = saved.accessKey then .fitting
  else if (Sealing.openWith held.accessKey saved.ring.wrappedKey []).toOption = none then .shut
  else .chance

def Step.trial? (holder : Holder) : Step → Option Trial
  | readBack source => do
    let held ← holder.held
    let saved ← held.saved
    return held.trial saved source
  | _ => none

/-- The keys with which the steps read files back. -/
def trials : List Step → Holder → World → List Trial
  | [], _, _ => []
  | step :: rest, holder, world =>
    let (_, next, later) := step.perform holder world
    (step.trial? holder).toList ++ trials rest next later

/-- Steps that differ in nothing but the bytes of keys. The lengths of the keys are the same. -/
inductive Step.Alike : Step → Step → Prop
  | new {config other : Config} : config.Alike other → Alike (.new config) (.new other)
  | add {key other : Bytes} : SameLength key other → Alike (.add key) (.add other)
  | addRandom (length : Nat) : Alike (.addRandom length) (.addRandom length)
  | activate (id : KeyId) : Alike (.activate id) (.activate id)
  | rekey {accessKey other : Bytes} (salt : Option Bytes) :
      SameLength accessKey other → Alike (.rekey accessKey salt) (.rekey other salt)
  | write (sink : Sink) : Alike (.write sink) (.write sink)
  | readBack (source other : Credential) : Alike (.readBack source) (.readBack other)
  | has (id : KeyId) : Alike (.has id) (.has id)
  | view : Alike .view .view
  | debugRing : Alike .debugRing .debugRing
  | debugView (index : Nat) : Alike (.debugView index) (.debugView index)
  | debugSource {source other : Credential} : source.Alike other → Alike (.debugSource source) (.debugSource other)
  | debugConfig {config other : Config} : config.Alike other → Alike (.debugConfig config) (.debugConfig other)

section Rings

/-- Two rings of one outline, each in order under its own access key, and without unknown packets. -/
structure Paired (ring : Ring) (accessKey : Bytes) (twin : Ring) (twinKey : Bytes) : Prop where
  alike : ring.outline = twin.outline
  formed : ring.WellFormed accessKey
  twinFormed : twin.WellFormed twinKey
  plain : ring.Plain

theorem Paired.twinPlain {ring twin : Ring} {accessKey twinKey : Bytes} (rings : Paired ring accessKey twin twinKey) :
    twin.Plain := by
  have extras : ring.extras = twin.extras := congrArg Ring.Outline.extras rings.alike
  have bundleExtras : ring.bundleExtras = twin.bundleExtras := congrArg Ring.Outline.bundleExtras rings.alike
  exact ⟨extras.symm.trans rings.plain.1, bundleExtras.symm.trans rings.plain.2⟩

section Making

variable {ring twin : Ring} {accessKey twinKey : Bytes}

theorem Paired.of_effects {next next' : Ring} {made made' : List Ring.Change}
    (rings : Paired ring accessKey twin twinKey) (effect : ring.Effect made next) (twinEffect : twin.Effect made' next')
    (alike : next.outline = next'.outline) :
    Paired next (made.foldl Ring.Change.accessKey accessKey) next' (made'.foldl Ring.Change.accessKey twinKey) := by
  have carries := effect.carries rings.formed
  have plain : next.Plain :=
    ⟨carries.extras.trans rings.plain.1, carries.bundleExtras.trans rings.plain.2⟩
  exact ⟨alike, rings.formed.effect effect, rings.twinFormed.effect twinEffect, plain⟩

theorem Paired.new {config other : Config} (alike : config.Alike other) :
    Twins (fun ring twin => Paired ring config.accessKey twin other.accessKey) (Ring.new config) (Ring.new other) := by
  obtain ⟨initialKeys, accessKeys, salts⟩ := alike
  refine (Ring.twins_new initialKeys accessKeys salts).imp fun {before _ _ _ after _} made madeToo same => ?_
  have origin : Ring.Origin _ config.accessKey := .new made
  have twinOrigin : Ring.Origin _ other.accessKey := .new madeToo
  refine ⟨same, origin.wellFormed, twinOrigin.wellFormed, ?_⟩
  obtain ⟨-, -, -, _, -, rfl⟩ := (Ring.new_eq_ok_iff before).mp ⟨after, made⟩
  exact ⟨rfl, rfl⟩

variable (rings : Paired ring accessKey twin twinKey)
include rings

theorem Paired.add {key key' : Bytes} (keys : SameLength key key') :
    Twins (fun made other => made.1 = other.1 ∧ Paired made.2 accessKey other.2 twinKey) (ring.add key)
      (twin.add key') := by
  refine (Ring.twins_add rings.alike rings.formed rings.twinFormed keys).imp fun added addedToo same => ?_
  exact ⟨same.1, rings.of_effects (.of_add added) (.of_add addedToo) same.2⟩

theorem Paired.addRandom (length : Nat) :
    Twins (fun made other => made.1 = other.1 ∧ Paired made.2 accessKey other.2 twinKey) (ring.addRandom length)
      (twin.addRandom length) := by
  refine (Ring.twins_addRandom rings.alike rings.formed rings.twinFormed length).imp fun added addedToo same => ?_
  obtain ⟨-, _, stored⟩ := (Ring.addRandom_eq_ok_iff _).mp ⟨_, added⟩
  obtain ⟨-, _, storedToo⟩ := (Ring.addRandom_eq_ok_iff _).mp ⟨_, addedToo⟩
  exact ⟨same.1, rings.of_effects (.of_add stored) (.of_add storedToo) same.2⟩

theorem Paired.activate (id : KeyId) :
    Twins (fun next other => Paired next accessKey other twinKey) (ring.activate id) (twin.activate id) := by
  refine (Ring.twins_activate rings.alike id).imp fun activated activatedToo same => ?_
  obtain ⟨view, found, rfl⟩ := (Ring.activate_eq_ok_iff _).mp ⟨_, activated⟩
  obtain ⟨view', foundToo, rfl⟩ := (Ring.activate_eq_ok_iff _).mp ⟨_, activatedToo⟩
  exact rings.of_effects (.activated found) (.activated foundToo) same

theorem Paired.rekey {key key' : Bytes} (keys : SameLength key key') (salt : Option Bytes) :
    Twins (fun next other => Paired next key other key') (ring.rekey key salt) (twin.rekey key' salt) := by
  have effect : ∀ {ring next : Ring} {key : Bytes} {before after : World}, ring.rekey key salt before = .ok next after →
      ring.Effect [.rekeyed key salt] next := by
    intro ring next key before after rekeyed
    obtain ⟨-, wrappedKey, wrapped, rfl⟩ := (Ring.rekey_eq_ok_iff before).mp ⟨after, rekeyed⟩
    exact .rekeyed (Sealing.openWith_eq_ok_iff.mpr ⟨_, Supply.length_segment _ _ _, wrapped⟩)
  refine (Ring.twins_rekey rings.alike keys salt).imp fun rekeyed rekeyedToo same => ?_
  exact rings.of_effects (effect rekeyed) (effect rekeyedToo) same

end Making

section Files

/-- Files of one length, each the front of what a ring was written to. -/
structure Saved.Twin (saved twin : Saved) : Prop where
  rings : Paired saved.ring saved.accessKey twin.ring twin.accessKey
  contents : SameLength saved.content twin.content
  fronts : ∃ data data', saved.ring.Encoded data ∧ twin.ring.Encoded data' ∧ SameLength data data' ∧
    saved.content <+: data ∧ twin.content <+: data'

theorem Paired.write {ring twin : Ring} {accessKey twinKey : Bytes} (rings : Paired ring accessKey twin twinKey)
    (sink : Sink) :
    Twins (fun delivery other => delivery.written = other.written ∧
        Saved.Twin ⟨delivery.received, ring, accessKey⟩ ⟨other.received, twin, twinKey⟩)
      (ring.write sink) (twin.write sink) := by
  refine (Ring.twins_write rings.alike sink).imp fun _ _ same => ?_
  obtain ⟨outcome, data, data', whole, whole', sizes, received, received'⟩ := same
  refine ⟨outcome, rings, ?_, data, data', whole, whole', sizes, ?_, ?_⟩
  · rw [received, received']
    exact (sink.take_agree sizes).1
  · rw [received]
    exact sink.take_prefix data
  · rw [received']
    exact sink.take_prefix data'

variable {saved twin : Saved} {source source' : Credential} {rel : Ring → Ring → Prop}

/-- Of files that are cut off, the same damage is found. So it is enough to look at whole ones. -/
theorem Saved.Twin.read (saves : saved.Twin twin)
    (whole : saved.ring.Encoded saved.content → twin.ring.Encoded twin.content →
      Twins rel (Ring.read (.ofBytes saved.content) source) (Ring.read (.ofBytes twin.content) source')) :
    Twins rel (Ring.read (.ofBytes saved.content) source) (Ring.read (.ofBytes twin.content) source') := by
  obtain ⟨rings, contents, data, data', encoded, encoded', sizes, front, front'⟩ := saves
  by_cases all : saved.content = data
  · have allToo : twin.content = data' := by
      refine front'.eq_of_length ?_
      rw [← contents, all, sizes]
    rw [all, allToo] at whole ⊢
    exact whole encoded encoded'
  · obtain ⟨cause, stops, stopsToo⟩ := encoded.read_cut rings.alike rings.formed rings.plain encoded' rings.twinFormed
      rings.twinPlain sizes front front' contents all
    intro world twinWorld worlds
    rw [stops, stopsToo]
    exact .failed (.error cause) worlds

theorem Saved.Twin.read_fitting (saves : saved.Twin twin) (fits : source.key saved.ring.salt = saved.accessKey)
    (fitsToo : source'.key twin.ring.salt = twin.accessKey) :
    Twins (fun ring ring' => Paired ring (source.key ring.salt) ring' (source'.key ring'.salt))
      (Ring.read (.ofBytes saved.content) source) (Ring.read (.ofBytes twin.content) source') := by
  refine saves.read fun encoded encodedToo => ?_
  obtain ⟨alike, formed, twinFormed, plain⟩ := saves.rings
  rw [← fits] at formed
  rw [← fitsToo] at twinFormed
  have salts := Ring.salt_of_outline alike
  have told : saved.ring.readEvent = twin.ring.readEvent := Ring.readEvent_of_outline alike
  intro world twinWorld worlds
  rw [encoded.read_open formed plain, encodedToo.read_open twinFormed saves.rings.twinPlain, ← salts, ← told]
  exact .done ⟨alike, formed, twinFormed, plain⟩ ((worlds.push _).push _)

theorem Saved.Twin.read_shut (saves : saved.Twin twin)
    (fits : (source.key saved.ring.salt).length = Credential.keyLength)
    (fitsToo : (source'.key twin.ring.salt).length = Credential.keyLength)
    (closed : ∀ plain, Sealing.openWith (source.key saved.ring.salt) saved.ring.wrappedKey [] ≠ .ok plain)
    (closedToo : ∀ plain, Sealing.openWith (source'.key twin.ring.salt) twin.ring.wrappedKey [] ≠ .ok plain) :
    Twins rel (Ring.read (.ofBytes saved.content) source) (Ring.read (.ofBytes twin.content) source') := by
  refine saves.read fun encoded encodedToo => ?_
  obtain ⟨alike, formed, twinFormed, plain⟩ := saves.rings
  have salts := Ring.salt_of_outline alike
  intro world twinWorld worlds
  rw [encoded.read_closed formed plain fits closed,
    encodedToo.read_closed twinFormed saves.rings.twinPlain fitsToo closedToo, ← salts]
  exact .failed (.error RingError.refused) (worlds.push _)

end Files

end Rings

section Holders

structure Held.Twin (held twin : Held) : Prop where
  rings : Paired held.ring held.accessKey twin.ring twin.accessKey
  saved : Option.Rel Saved.Twin held.saved twin.saved

structure Holder.Twin (holder twin : Holder) : Prop where
  held : Option.Rel Held.Twin holder.held twin.held
  views : List.Forall₂ (fun view other => Snapshot.outline view = Snapshot.outline other) holder.views twin.views

variable {holder twin : Holder}

theorem standing_of_outline {view other : Snapshot} (alike : view.outline = other.outline) :
    standing view = standing other := by
  rw [standing, standing, Snapshot.ids_of_outline alike, Snapshot.activeId_of_outline alike,
    Snapshot.length_of_outline alike]

theorem Holder.Twin.saved (holders : holder.Twin twin) : Option.Rel Saved.Twin holder.saved twin.saved := by
  obtain ⟨held, taken⟩ := holder
  obtain ⟨held', taken'⟩ := twin
  cases holders.held with
  | none => exact .none
  | some helds => exact helds.saved

theorem views_of_outline {views others : List Snapshot}
    (alike : List.Forall₂ (fun view other => Snapshot.outline view = Snapshot.outline other) views others) :
    views.map standing = others.map standing := by
  induction alike with
  | nil => rfl
  | cons same _ ih => rw [List.map_cons, List.map_cons, standing_of_outline same, ih]

theorem Holder.Twin.viewText (holders : holder.Twin twin) (index : Nat) : holder.viewText index = twin.viewText index := by
  have here : ∀ {views others : List Snapshot} (index : Nat),
      List.Forall₂ (fun view other => Snapshot.outline view = Snapshot.outline other) views others →
      Option.Rel (fun view other => Snapshot.outline view = Snapshot.outline other) views[index]? others[index]? := by
    intro views others index alike
    induction alike generalizing index with
    | nil => exact .none
    | cons same _ ih =>
      cases index with
      | zero => exact .some same
      | succ index => exact ih index
  have taken := here index holders.views
  unfold Holder.viewText
  generalize holder.views[index]? = mine at taken
  generalize twin.views[index]? = yours at taken
  cases taken with
  | none => rfl
  | some same => exact congrArg Reply.text (Snapshot.summary_of_outline same)

theorem lengths_of_saved {saved twin : Option Saved} (saves : Option.Rel Saved.Twin saved twin) :
    (saved.map fun saved => saved.content.length) = twin.map fun saved => saved.content.length := by
  cases saves with
  | none => rfl
  | some both => exact congrArg some both.contents

theorem rings_of_held {held twin : Option Held} (helds : Option.Rel Held.Twin held twin) :
    (held.map fun held => (standing held.ring.view, held.ring.maxId)) =
      twin.map fun held => (standing held.ring.view, held.ring.maxId) := by
  cases helds with
  | none => rfl
  | some both =>
    have views := standing_of_outline (Ring.view_of_outline both.rings.alike)
    have maxIds := Ring.maxId_of_outline both.rings.alike
    exact congrArg some (Prod.ext views maxIds)

/-- In twin worlds, holders in twin give the same report of the same outcome. -/
theorem Holder.Twin.report (holders : holder.Twin twin) (outcome : Except (Failure RingError) Reply)
    {before before' later later' : World} (begun : before.Twin before') (ended : later.Twin later') :
    holder.report outcome before later = twin.report outcome before' later' := by
  rw [Holder.report, Holder.report, begun.trace, ended.trace, rings_of_held holders.held,
    views_of_outline holders.views, lengths_of_saved holders.saved]

theorem Holder.Twin.onRing (holders : holder.Twin twin) {act act' : Held → RingAction (Reply × Holder)}
    (acts : ∀ held held', held.Twin held' → holder.held = some held → twin.held = some held' →
      Twins (fun made other => made.1 = other.1 ∧ made.2.Twin other.2) (act held) (act' held')) :
    Twins (fun made other => made.1 = other.1 ∧ made.2.Twin other.2) (holder.onRing act) (twin.onRing act') := by
  obtain ⟨held, taken⟩ := holder
  obtain ⟨held', taken'⟩ := twin
  cases holders.held with
  | none => exact .pure ⟨rfl, holders⟩
  | some helds => exact acts _ _ helds rfl rfl

theorem Config.summary_of_alike {config other : Config} (alike : config.Alike other) :
    config.summary = other.summary := by
  obtain ⟨initialKeys, accessKeys, salts⟩ := alike
  have initialLengths : config.initialKey.length = other.initialKey.length := initialKeys
  have accessLengths : config.accessKey.length = other.accessKey.length := accessKeys
  unfold Config.summary
  rw [initialLengths, accessLengths, salts]

theorem Credential.summary_of_alike {source other : Credential} (alike : source.Alike other) :
    source.summary = other.summary := by
  cases alike with
  | @fixed key other sizes =>
    have lengths : key.bytes.length = other.bytes.length := sizes
    unfold Credential.summary Secret.summary Secret.length
    dsimp only
    rw [lengths]
  | passphrase | stretched | rule => rfl

end Holders

section Steps

theorem Held.trial_eq_fitting {held : Held} {saved : Saved} {source : Credential}
    (fitting : held.trial saved source = .fitting) :
    source.key saved.ring.salt = saved.accessKey := by
  unfold trial at fitting
  split at fitting
  · cases fitting
  next current =>
    split at fitting
    next same => exact (Decidable.not_not.mp current).trans same
    · split at fitting <;> cases fitting

theorem Held.trial_eq_shut {held : Held} {saved : Saved} {source : Credential} (shut : held.trial saved source = .shut) :
    source.key saved.ring.salt = held.accessKey ∧
      ∀ plain, Sealing.openWith held.accessKey saved.ring.wrappedKey [] ≠ .ok plain := by
  unfold trial at shut
  split at shut
  · cases shut
  next current =>
    refine ⟨Decidable.not_not.mp current, ?_⟩
    split at shut
    · cases shut
    · split at shut
      next closed =>
        intro plain opened
        rw [opened] at closed
        cases closed
      · cases shut

/-- The step reads no file back, or does so with keys that both fit, or with keys that are both shut out. -/
def Evenly (step other : Step) (holder twin : Holder) : Prop :=
  step.trial? holder = other.trial? twin ∧ ∀ trial ∈ step.trial? holder, trial = .fitting ∨ trial = .shut

theorem Step.Alike.act_twins {step other : Step} (alike : step.Alike other) {holder twin : Holder}
    (holders : holder.Twin twin) (evenly : Evenly step other holder twin) :
    Twins (fun made made' => made.1 = made'.1 ∧ made.2.Twin made'.2) (step.act holder) (other.act twin) := by
  have held : ∀ {held held' : Held}, held.Twin held' → Holder.Twin { holder with held := some held }
      { twin with held := some held' } := fun helds => ⟨.some helds, holders.views⟩
  cases alike with
  | new configs =>
    exact .bind (Paired.new configs) fun ring ring' rings => .pure ⟨rfl, held ⟨rings, holders.saved⟩⟩
  | add keys =>
    refine holders.onRing fun _ _ helds _ _ => ?_
    exact .bind (helds.rings.add keys) fun made made' same => .pure ⟨congrArg Reply.id same.1, held ⟨same.2, helds.saved⟩⟩
  | addRandom length =>
    refine holders.onRing fun _ _ helds _ _ => ?_
    exact .bind (helds.rings.addRandom length) fun made made' same =>
      .pure ⟨congrArg Reply.id same.1, held ⟨same.2, helds.saved⟩⟩
  | activate id =>
    refine holders.onRing fun _ _ helds _ _ => ?_
    exact .bind (helds.rings.activate id) fun next next' rings => .pure ⟨rfl, held ⟨rings, helds.saved⟩⟩
  | rekey salt keys =>
    refine holders.onRing fun _ _ helds _ _ => ?_
    exact .bind (helds.rings.rekey keys salt) fun next next' rings => .pure ⟨rfl, held ⟨rings, helds.saved⟩⟩
  | write sink =>
    refine holders.onRing fun _ _ helds _ _ => ?_
    exact .bind (helds.rings.write sink) fun delivery delivery' same =>
      .pure ⟨congrArg Reply.written same.1, held ⟨helds.rings, .some same.2⟩⟩
  | readBack source source' =>
    refine holders.onRing fun mine yours helds given givenToo => ?_
    obtain ⟨ring, accessKey, saved⟩ := mine
    obtain ⟨ring', accessKey', saved'⟩ := yours
    cases helds.saved with
    | none => exact .pure ⟨rfl, holders⟩
    | @some file file' saves =>
      have tried : (Step.readBack source).trial? holder = some (Held.trial ⟨ring, accessKey, file⟩ file source) := by
        rw [Step.trial?, given]
        rfl
      have triedToo : (Step.readBack source').trial? twin =
          some (Held.trial ⟨ring', accessKey', file'⟩ file' source') := by
        rw [Step.trial?, givenToo]
        rfl
      obtain ⟨same, kinds⟩ := evenly
      have kind := kinds _ tried
      rw [tried, triedToo] at same
      -- Of all steps, this one alone depends on what the keys are: they fit in both runs, or are shut out in both.
      have reads : Twins (fun ring ring' => Paired ring (source.key ring.salt) ring' (source'.key ring'.salt))
          (Ring.read (.ofBytes file.content) source) (Ring.read (.ofBytes file'.content) source') := by
        rcases kind with fitting | shut
        · have fittingToo := (Option.some.inj same).symm.trans fitting
          exact saves.read_fitting (Held.trial_eq_fitting fitting) (Held.trial_eq_fitting fittingToo)
        · have shutToo := (Option.some.inj same).symm.trans shut
          obtain ⟨current, closed⟩ := Held.trial_eq_shut shut
          obtain ⟨currentToo, closedToo⟩ := Held.trial_eq_shut shutToo
          have length : accessKey.length = Credential.keyLength :=
            (Sealing.eq_envelope_of_openWith helds.rings.formed.opens).1
          have lengthToo : accessKey'.length = Credential.keyLength :=
            (Sealing.eq_envelope_of_openWith helds.rings.twinFormed.opens).1
          refine saves.read_shut ?_ ?_ ?_ ?_
          · rw [current]
            exact length
          · rw [currentToo]
            exact lengthToo
          · rw [current]
            exact closed
          · rw [currentToo]
            exact closedToo
      exact .bind reads fun next next' rings => .pure ⟨rfl, held ⟨rings, .some saves⟩⟩
  | has id =>
    refine holders.onRing fun _ _ helds _ _ => .pure ⟨congrArg Reply.flag ?_, holders⟩
    exact Snapshot.has_of_outline (Ring.view_of_outline helds.rings.alike) id
  | view =>
    refine holders.onRing fun _ _ helds _ _ => .pure ⟨rfl, holders.held, ?_⟩
    have last := Ring.view_of_outline helds.rings.alike
    exact List.rel_append holders.views (.cons last .nil)
  | debugRing =>
    refine holders.onRing fun _ _ helds _ _ => .pure ⟨congrArg Reply.text ?_, holders⟩
    exact Ring.summary_of_outline helds.rings.alike
  | debugView index => exact .pure ⟨holders.viewText index, holders⟩
  | debugSource sources => exact .pure ⟨congrArg Reply.text (Credential.summary_of_alike sources), holders⟩
  | debugConfig configs => exact .pure ⟨congrArg Reply.text (Config.summary_of_alike configs), holders⟩

/-- One step of two runs gives the same report, and leaves them in twin. -/
theorem Step.Alike.perform {step other : Step} (alike : step.Alike other) {holder twin : Holder}
    (holders : holder.Twin twin) (evenly : Evenly step other holder twin) {world world' : World}
    (worlds : world.Twin world') :
    (step.perform holder world).1 = (other.perform twin world').1 ∧
      (step.perform holder world).2.1.Twin (other.perform twin world').2.1 ∧
      (step.perform holder world).2.2.Twin (other.perform twin world').2.2 := by
  have ends := alike.act_twins holders evenly world world' worlds
  unfold Step.perform
  generalize step.act holder world = mine at ends ⊢
  generalize other.act twin world' = yours at ends ⊢
  cases ends with
  | @done made made' later later' same laters =>
    obtain ⟨reply, next⟩ := made
    obtain ⟨reply', next'⟩ := made'
    obtain ⟨rfl, nexts⟩ := same
    dsimp only
    exact ⟨nexts.report _ worlds laters, nexts, laters⟩
  | failed failure laters =>
    dsimp only
    exact ⟨holders.report _ worlds laters, holders, laters⟩

theorem Step.Alike.trial {step other : Step} (alike : step.Alike other) {holder twin : Holder}
    (holders : holder.Twin twin) : (step.trial? holder).toList.length = (other.trial? twin).toList.length := by
  have counted : ∀ (holder : Holder) (source : Credential),
      ((Step.readBack source).trial? holder).toList.length = holder.saved.toList.length := by
    intro holder source
    obtain ⟨_ | ⟨ring, accessKey, _ | file⟩, views⟩ := holder <;> rfl
  have files := holders.saved
  cases alike with
  | readBack source source' =>
    rw [counted, counted]
    generalize holder.saved = mine at files
    generalize twin.saved = yours at files
    cases files <;> rfl
  | _ => rfl

theorem run_alike {steps others : List Step} (alike : List.Forall₂ Step.Alike steps others) {holder twin : Holder}
    (holders : holder.Twin twin) {world world' : World} (worlds : world.Twin world')
    (same : trials steps holder world = trials others twin world')
    (kinds : ∀ trial ∈ trials steps holder world, trial = .fitting ∨ trial = .shut) :
    run steps holder world = run others twin world' := by
  induction alike generalizing holder twin world world' with
  | nil => rfl
  | @cons step other rest behind here _ ih =>
    rw [trials, trials] at same
    rw [trials] at kinds
    -- The conditions on the keys are those of the first step, and then those of the rest.
    obtain ⟨now, later⟩ := List.append_inj same (here.trial holders)
    have tries : step.trial? holder = other.trial? twin := by
      have first := congrArg List.head? now
      rwa [Option.head?_toList, Option.head?_toList] at first
    have evenly : Evenly step other holder twin :=
      ⟨tries, fun trial tried => kinds trial (List.mem_append_left _ (Option.mem_toList.mpr tried))⟩
    obtain ⟨reports, nexts, laters⟩ := here.perform holders evenly worlds
    have others := ih nexts laters later fun trial tried => kinds trial (List.mem_append_right _ tried)
    rw [run, run]
    exact congrArg₂ List.cons reports others

/-- What a caller is shown tells nothing of keys. Two runs of the same steps, with other keys of the same lengths and
other random bytes, give the same reports, if at each reading back the current access key is in both runs the one under
which the file was written, or is shut out by the file in both. -/
theorem run_tells_no_secret {steps others : List Step} (alike : List.Forall₂ Step.Alike steps others)
    {world twin : World} (worlds : world.Twin twin) (same : trials steps .empty world = trials others .empty twin)
    (kinds : ∀ trial ∈ trials steps .empty world, trial = .fitting ∨ trial = .shut) :
    run steps .empty world = run others .empty twin :=
  run_alike alike ⟨.none, .nil⟩ worlds same kinds

end Steps

section Sample

/-- A file is written under the first access key, and is read back under both. -/
def rekeyed (initialKey first second : Bytes) : List Step :=
  [.new ⟨initialKey, first, none⟩, .write .boundless, .readBack (.fixed ⟨first⟩), .rekey second none,
    .readBack (.fixed ⟨second⟩)]

theorem rekeyed_alike {initialKey first second initialKey' first' second' : Bytes}
    (initialKeys : SameLength initialKey initialKey') (firsts : SameLength first first')
    (seconds : SameLength second second') :
    List.Forall₂ Step.Alike (rekeyed initialKey first second) (rekeyed initialKey' first' second') :=
  .cons (.new ⟨initialKeys, firsts, rfl⟩) (.cons (.write _) (.cons (.readBack _ _)
    (.cons (.rekey none seconds) (.cons (.readBack _ _) .nil))))

/-- All keys and all random bytes of the two runs are different, and their lengths are the same. -/
theorem run_tells_no_secret_rekeyed :
    run (rekeyed [7] (List.replicate 32 1) (List.replicate 32 2)) .empty ⟨⟨fun _ => 0, 0, none⟩, #[]⟩ =
      run (rekeyed [8] (List.replicate 32 3) (List.replicate 32 4)) .empty ⟨⟨fun _ => 9, 0, none⟩, #[]⟩ := by
  apply run_tells_no_secret
  · exact rekeyed_alike rfl rfl rfl
  · exact ⟨rfl, rfl, rfl⟩
  · decide +kernel
  · decide +kernel

/-- The current access key alone is not enough. Where the second access key happens to be the first one, the file is
read back under it, and under another one it is not. -/
theorem run_tells_second_key :
    List.Forall₂ Step.Alike (rekeyed [7] (List.replicate 32 1) (List.replicate 32 1))
        (rekeyed [7] (List.replicate 32 1) (List.replicate 32 2)) ∧
      trials (rekeyed [7] (List.replicate 32 1) (List.replicate 32 1)) .empty (Ring.worldFrom []) =
        [.fitting, .fitting] ∧
      trials (rekeyed [7] (List.replicate 32 1) (List.replicate 32 2)) .empty (Ring.worldFrom []) =
        [.fitting, .shut] ∧
      run (rekeyed [7] (List.replicate 32 1) (List.replicate 32 1)) .empty (Ring.worldFrom []) ≠
        run (rekeyed [7] (List.replicate 32 1) (List.replicate 32 2)) .empty (Ring.worldFrom []) := by
  refine ⟨rekeyed_alike rfl rfl rfl, by decide +kernel, by decide +kernel, fun same => ?_⟩
  have outcomes := congrArg (List.map fun report => report.outcome.isOk) same
  revert outcomes
  decide +kernel

end Sample

end Secrecy

end Keyring
