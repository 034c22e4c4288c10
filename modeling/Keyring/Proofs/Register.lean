import Keyring.Proofs.Course
import Mathlib.Data.List.Nodup

namespace Keyring

/-- Keys by their ids, one of which is active. -/
structure KeyMap where
  keys : Std.ExtTreeMap KeyId Bytes
  active : KeyId

/-- A keyring as its callers know it: a finite map, the active id, and the largest id that was given out. -/
structure Register extends KeyMap where
  last : KeyId

/-- A question about the keys. -/
inductive Query where
  | get (id : KeyId)
  | append (id : KeyId) (buffer : Bytes)
  | has (id : KeyId)
  | length
  | active
  | getActive
  | appendActive (buffer : Bytes)
  | ids

inductive Answer where
  | done
  | key (bytes : Bytes)
  | entry (id : KeyId) (bytes : Bytes)
  | holds (truth : Bool)
  | count (number : Nat)
  | id (id : KeyId)
  | ids (list : List KeyId)

/-- What a call gives: an answer, or how it failed. -/
abbrev Reply := Except (Failure RingError) Answer

namespace KeyMap

/-- The map of some entries. -/
def keysOf (entries : List Entry) : Std.ExtTreeMap KeyId Bytes :=
  entries.foldr (fun entry keys => keys.insert entry.id entry.key) ∅

/-- The key of an id. There is none for an id that is not in the map. -/
def get (map : KeyMap) (id : KeyId) : Except Fault Bytes :=
  match map.keys[id]? with
  | some key => .ok key
  | none => .error (.noSuchKey id)

def answer (map : KeyMap) : Query → Except Fault Answer
  | .get id => (map.get id).map .key
  | .append id buffer => (map.get id).map fun key => .key (buffer ++ key)
  | .has id => .ok (.holds (map.keys.contains id))
  | .length => .ok (.count map.keys.size)
  | .active => .ok (.id map.active)
  | .getActive => (map.get map.active).map fun key => .entry map.active key
  | .appendActive buffer => (map.get map.active).map fun key => .entry map.active (buffer ++ key)
  | .ids => .ok (.ids map.keys.keys)

end KeyMap

namespace Register

/-- One key under the id 1. -/
def single (key : Bytes) : Register :=
  ⟨⟨(∅ : Std.ExtTreeMap KeyId Bytes).insert 1 key, 1⟩, 1⟩

/-- The entries among the packets of a bundle, with the active id on record, or the lowest if none is. -/
def ofPackets (packets : List Packet) : Register :=
  let keys := KeyMap.keysOf (Bundle.entries packets)
  ⟨⟨keys, (Bundle.recordedActive packets).getD (keys.minKey?.getD 0)⟩, keys.maxKey?.getD 0⟩

/-- Puts a key under the next id. -/
def add (register : Register) (key : Bytes) : Except Fault (KeyId × Register) :=
  if key = [] then .error .keyEmpty
  else if register.last = 4294967295 then .error .idsExhausted
  else
    let id := register.last + 1
    .ok (id, { register with keys := register.keys.insert id key, last := id })

/-- Puts the next `length` bytes of the supply under the next id. -/
def addRandom (register : Register) (supply : Supply) (length : Nat) : Except Fault (KeyId × Register) :=
  if length = 0 then .error .randomKeyEmpty
  else
    match supply.take length with
    | .ok (key, _) => register.add key
    | .error fault => .error fault

def activate (register : Register) (id : KeyId) : Except Fault Register :=
  if id ∈ register.keys then .ok { register with active := id } else .error (.noSuchKey id)

end Register

/-- What a call answers and leaves. One that fails leaves all as it was. -/
def settle {σ α : Type} (state : σ) (outcome : Except (Failure RingError) α) (done : α → Answer × σ) :
    Option Reply × σ :=
  match outcome with
  | .ok value => (some (.ok (done value).1), (done value).2)
  | .error failure => (some (.error failure), state)

/-- How an action ends. -/
def Action.outcome {σ ε α : Type} (action : ActionOn σ ε α) (state : σ) : Except (Failure ε) α :=
  match action state with
  | .ok value _ => .ok value
  | .error failure _ => .error failure

/-- Makes a call. Whether a rekeying or a writing comes to an end is no matter of the keys. -/
def Ring.serve (world : World) (ring : Ring) : Ring.Call → Option Reply × Ring
  | .add key => settle ring (Action.outcome (ring.add key) world) fun made => (.id made.1, made.2)
  | .addRandom length => settle ring (Action.outcome (ring.addRandom length) world) fun made => (.id made.1, made.2)
  | .activate id => settle ring (Action.outcome (ring.activate id) world) fun next => (.done, next)
  | .rekey accessKey salt =>
    (none, (settle ring (Action.outcome (ring.rekey accessKey salt) world) fun next => (.done, next)).2)
  | .write sink => (none, (settle ring (Action.outcome (ring.write sink) world) fun _ => (.done, ring)).2)

/-- The same for a register, which rekeying and writing leave alone. -/
def Register.serve (world : World) (register : Register) : Ring.Call → Option Reply × Register
  | .add key => settle register ((register.add key).mapError .fault) fun made => (.id made.1, made.2)
  | .addRandom length =>
    settle register ((register.addRandom world.supply length).mapError .fault) fun made => (.id made.1, made.2)
  | .activate id => settle register ((register.activate id).mapError .fault) fun next => (.done, next)
  | .rekey _ _ | .write _ => (none, register)

def Snapshot.answer (view : Snapshot) : Query → Except Fault Answer
  | .get id => (view.get id).map .key
  | .append id buffer => (view.append id buffer).map .key
  | .has id => .ok (.holds (view.has id))
  | .length => .ok (.count view.length)
  | .active => .ok (.id view.activeId)
  | .getActive => .ok (.entry view.getActive.1 view.getActive.2)
  | .appendActive buffer => .ok (.entry (view.appendActive buffer).1 (view.appendActive buffer).2)
  | .ids => .ok (.ids view.ids)

def Ring.answer (ring : Ring) : Query → Except Fault Answer
  | .has id => .ok (.holds (ring.has id))
  | .length => .ok (.count ring.length)
  | .active => .ok (.id ring.activeId)
  | query => ring.view.answer query

/-- What can be done with a keyring by those who hold it. -/
inductive Move where
  | call (call : Ring.Call)
  | ask (query : Query)
  | askLargest
  /-- Takes a snapshot. -/
  | take
  /-- Asks the snapshot that was taken after `index` others. -/
  | askTaken (index : Nat) (query : Query)

/-- A kind of keyrings and of their snapshots, as they are used. -/
structure Face (σ τ : Type) where
  serve : World → σ → Ring.Call → Option Reply × σ
  ask : σ → Query → Except Fault Answer
  largest : σ → KeyId
  snapshot : σ → τ
  askTaken : τ → Query → Except Fault Answer

def Ring.face : Face Ring Snapshot :=
  ⟨Ring.serve, Ring.answer, Ring.maxId, Ring.view, Snapshot.answer⟩

def Register.face : Face Register KeyMap :=
  ⟨Register.serve, fun register => register.toKeyMap.answer, Register.last, Register.toKeyMap, KeyMap.answer⟩

namespace Face

variable {σ τ σ' τ' : Type}

/-- Makes one move with a keyring and the snapshots taken of it. -/
def step (face : Face σ τ) (world : World) (state : σ) (taken : List τ) : Move → Option Reply × σ × List τ
  | .call call => ((face.serve world state call).1, (face.serve world state call).2, taken)
  | .ask query => (some ((face.ask state query).mapError .fault), state, taken)
  | .askLargest => (some (.ok (.id (face.largest state))), state, taken)
  | .take => (none, state, taken ++ [face.snapshot state])
  | .askTaken index query =>
    (taken[index]?.map fun view => (face.askTaken view query).mapError .fault, state, taken)

/-- The replies to moves, each made in a world of its own. -/
def replies (face : Face σ τ) (state : σ) (taken : List τ) : List (World × Move) → List (Option Reply)
  | [] => []
  | (world, move) :: rest =>
    let (reply, next, held) := face.step world state taken move
    reply :: face.replies next held rest

end Face

section Lookup

namespace KeySet

variable {entries : List Entry}

/-- Of entries with ids of their own, exactly the one that has an id is found by it. -/
theorem find?_eq_some_iff_mem (distinct : entries.Pairwise (·.id ≠ ·.id)) {id : KeyId} {entry : Entry} :
    entries.find? (·.id == id) = some entry ↔ entry ∈ entries ∧ entry.id = id := by
  constructor
  · intro found
    exact ⟨List.mem_of_find?_eq_some found, by simpa using List.find?_some found⟩
  · rintro ⟨member, rfl⟩
    induction entries with
    | nil => simp at member
    | cons first rest ih =>
      obtain ⟨apart, others⟩ := List.pairwise_cons.mp distinct
      rcases List.mem_cons.mp member with rfl | later
      · simp
      · have different : (first.id == entry.id) = false := by simpa using apart entry later
        rw [List.find?_cons, different]
        exact ih others later

end KeySet

namespace KeyMap

variable {entries others : List Entry}

theorem getElem?_keysOf (entries : List Entry) (id : KeyId) :
    (keysOf entries)[id]? = (entries.find? (·.id == id)).map Entry.key := by
  induction entries with
  | nil => simp [keysOf]
  | cons first rest ih =>
    have step : keysOf (first :: rest) = (keysOf rest).insert first.id first.key := rfl
    rw [step, Std.ExtTreeMap.getElem?_insert, List.find?_cons, ih]
    by_cases same : first.id = id
    · simp [same]
    · have different : (first.id == id) = false := by simpa using same
      simp [same, different]

theorem mem_keysOf {id : KeyId} : id ∈ keysOf entries ↔ id ∈ entries.map Entry.id := by
  rw [Std.ExtTreeMap.mem_iff_isSome_getElem?, getElem?_keysOf, Option.isSome_map, List.find?_isSome]
  simp

/-- The order of entries with ids of their own does not matter. -/
theorem keysOf_perm (perm : entries.Perm others) (distinct : entries.Pairwise (·.id ≠ ·.id)) :
    keysOf entries = keysOf others := by
  have alsoDistinct := (perm.pairwise_iff fun ne => Ne.symm ne).mp distinct
  refine Std.ExtTreeMap.ext_getElem? fun id => ?_
  have sameFound : entries.find? (·.id == id) = others.find? (·.id == id) := by
    refine Option.ext fun entry => ?_
    rw [KeySet.find?_eq_some_iff_mem distinct, KeySet.find?_eq_some_iff_mem alsoDistinct, perm.mem_iff]
  rw [getElem?_keysOf, getElem?_keysOf, sameFound]

/-- The ids of ascending entries are the ids of their map, in order. -/
theorem keys_keysOf (ascending : KeySet.Ascending entries) : (keysOf entries).keys = entries.map Entry.id := by
  have ordered : (keysOf entries).keys.Pairwise (· < ·) :=
    Std.ExtTreeMap.ordered_keys.imp fun less => Std.compare_eq_lt.mp less
  have alsoOrdered : (entries.map Entry.id).Pairwise (· < ·) := List.pairwise_map.mpr ascending
  have nodup : (keysOf entries).keys.Nodup := ordered.imp UInt32.ne_of_lt
  have alsoNodup : (entries.map Entry.id).Nodup := alsoOrdered.imp UInt32.ne_of_lt
  have perm : (keysOf entries).keys.Perm (entries.map Entry.id) := by
    rw [List.perm_ext_iff_of_nodup nodup alsoNodup]
    intro id
    rw [Std.ExtTreeMap.mem_keys, mem_keysOf]
  exact perm.eq_of_pairwise (fun _ _ _ _ less more => absurd less (UInt32.lt_asymm more)) ordered alsoOrdered

theorem size_keysOf (ascending : KeySet.Ascending entries) : (keysOf entries).size = entries.length := by
  rw [← Std.ExtTreeMap.length_keys, keys_keysOf ascending, List.length_map]

/-- An entry with a new id at the end is one more in the map. -/
theorem keysOf_append {entry : Entry} (new : ∀ other ∈ entries, other.id ≠ entry.id) :
    keysOf (entries ++ [entry]) = (keysOf entries).insert entry.id entry.key := by
  refine Std.ExtTreeMap.ext_getElem? fun id => ?_
  rw [getElem?_keysOf, Std.ExtTreeMap.getElem?_insert, getElem?_keysOf, List.find?_append]
  by_cases same : entry.id = id
  · have absent : entries.find? (·.id == id) = none := by
      rw [List.find?_eq_none]
      intro other member
      simpa [← same] using new other member
    simp [absent, same]
  · have different : (entry.id == id) = false := by simpa using same
    simp [same, different]

end KeyMap

end Lookup

/-- What a snapshot shows. -/
def Snapshot.keyMap (view : Snapshot) : KeyMap :=
  ⟨KeyMap.keysOf view.keys.entries, view.activeId⟩

/-- What a ring shows. -/
def Ring.register (ring : Ring) : Register :=
  ⟨ring.view.keyMap, ring.maxId⟩

namespace Snapshot

theorem get_keyMap (view : Snapshot) (id : KeyId) : view.keyMap.get id = view.get id := by
  unfold KeyMap.get Snapshot.get keyMap
  rw [KeyMap.getElem?_keysOf]
  cases view.keys.entries.find? (·.id == id) <;> rfl

theorem has_eq_contains (view : Snapshot) (id : KeyId) : view.has id = view.keyMap.keys.contains id := by
  have found : (view.keys.find? id).isSome = (view.keys.entries.find? (·.id == id)).isSome := by
    rw [KeySet.find?, List.findIdx?_isSome, List.isSome_find?]
  rw [has, found, Std.ExtTreeMap.contains_eq_isSome_getElem?, keyMap, KeyMap.getElem?_keysOf, Option.isSome_map]

theorem get_activeId {view : Snapshot} (ascending : KeySet.Ascending view.keys.entries) :
    view.keyMap.get view.activeId = .ok view.activeEntry.key := by
  have member : view.activeEntry ∈ view.keys.entries := List.get_mem _ _
  have found := (KeySet.find?_eq_some_iff_mem ascending.distinct).mpr ⟨member, rfl⟩
  rw [get_keyMap, get, activeId, found]

/-- A snapshot answers as its map does. -/
theorem answer_keyMap {view : Snapshot} (ascending : KeySet.Ascending view.keys.entries) (query : Query) :
    view.answer query = view.keyMap.answer query := by
  cases query with
  | get id => rw [answer, KeyMap.answer, get_keyMap]
  | append id buffer =>
    rw [answer, KeyMap.answer, get_keyMap, append]
    cases view.get id <;> rfl
  | has id => rw [answer, KeyMap.answer, has_eq_contains]
  | length =>
    rw [answer, KeyMap.answer, length, KeySet.length, ← KeyMap.size_keysOf ascending]
    rfl
  | active => rfl
  | getActive =>
    have shown : view.keyMap.get view.keyMap.active = .ok view.activeEntry.key := get_activeId ascending
    rw [answer, KeyMap.answer, shown]
    rfl
  | appendActive buffer =>
    have shown : view.keyMap.get view.keyMap.active = .ok view.activeEntry.key := get_activeId ascending
    rw [answer, KeyMap.answer, shown]
    rfl
  | ids =>
    rw [answer, KeyMap.answer, ids, KeySet.ids, ← KeyMap.keys_keysOf ascending]
    rfl

end Snapshot

namespace Ring

variable {ring next : Ring} {register : Register} {accessKey : Bytes}

theorem outcome_add (ring : Ring) (key : Bytes) (world : World) : Action.outcome (ring.add key) world =
    if key = [] then .error (.fault .keyEmpty)
    else if ring.maxId = maxKeyId then .error (.fault .idsExhausted)
    else .ok (ring.maxId + 1,
      { ring with view := ring.view.insert ⟨ring.maxId + 1, key⟩, maxId := ring.maxId + 1 }) := by
  by_cases empty : key = []
  · subst empty
    rfl
  · by_cases full : ring.maxId = maxKeyId
    · rw [Action.outcome, add, if_neg (by simpa using empty), if_pos full, if_neg empty, if_pos full]
      rfl
    · obtain ⟨later, added⟩ := (add_eq_ok_iff world).mpr ⟨empty, full, rfl, rfl⟩
      rw [Action.outcome, added, if_neg empty, if_neg full]

theorem outcome_addRandom (ring : Ring) (length : Nat) (world : World) :
    Action.outcome (ring.addRandom length) world =
      if length = 0 then .error (.fault .randomKeyEmpty)
      else
        match world.supply.take length with
        | .ok (key, _) => Action.outcome (ring.add key) world
        | .error fault => .error (.fault fault) := by
  by_cases none : length = 0
  · subst none
    rfl
  · have positive : (randomKey length : RingAction Bytes) = Action.draw .storedKey length := by
      unfold randomKey
      rw [if_neg none]
    rw [Action.outcome, addRandom, positive, if_neg none]
    cases taken : world.supply.take length with
    | error fault => rw [Action.bind_of_error (Action.draw_of_refused taken _)]
    | ok given =>
      obtain ⟨key, supply⟩ := given
      obtain ⟨enough, rfl, _⟩ := Supply.take_eq_ok_iff.mp taken
      rw [Action.bind_of_ok (Action.draw_of_has enough _)]
      change Action.outcome (ring.add _) _ = Action.outcome (ring.add _) _
      rw [outcome_add, outcome_add]

theorem outcome_activate (ring : Ring) (id : KeyId) (world : World) :
    Action.outcome (ring.activate id) world =
      match ring.view.activate id with
      | .ok view => .ok { ring with view := view }
      | .error fault => .error (.fault fault) := by
  unfold Action.outcome activate
  cases ring.view.activate id <;> rfl

/-- A register shows a ring whose parts agree with each other. -/
def Shows (ring : Ring) (register : Register) : Prop :=
  (∃ accessKey, ring.WellFormed accessKey) ∧ ring.register = register

/-- The next id goes with the key into the map, and to the end of the entries. -/
theorem register_insert (formed : ring.WellFormed accessKey) (room : ring.maxId ≠ maxKeyId) (key : Bytes) :
    Ring.register { ring with view := ring.view.insert ⟨ring.maxId + 1, key⟩, maxId := ring.maxId + 1 } =
      { ring.register with
        keys := ring.register.keys.insert (ring.maxId + 1) key
        last := ring.maxId + 1 } := by
  have above : ∀ other ∈ ring.view.keys.entries, other.id < (⟨ring.maxId + 1, key⟩ : Entry).id :=
    formed.lt_next room
  have new : ∀ other ∈ ring.view.keys.entries, other.id ≠ (⟨ring.maxId + 1, key⟩ : Entry).id :=
    fun other member => UInt32.ne_of_lt (above other member)
  have keys : KeyMap.keysOf (ring.view.insert ⟨ring.maxId + 1, key⟩).keys.entries =
      (KeyMap.keysOf ring.view.keys.entries).insert (ring.maxId + 1) key := by
    rw [Snapshot.entries_insert_above above, KeyMap.keysOf_append new]
  have active : (ring.view.insert ⟨ring.maxId + 1, key⟩).activeId = ring.view.activeId :=
    Snapshot.activeId_insert_above above
  simp only [Ring.register, Snapshot.keyMap, keys, active]

/-- The same reply, and a register that shows the ring after it. -/
def Agree (actual : Option Reply × Ring) (expected : Option Reply × Register) : Prop :=
  actual.1 = expected.1 ∧ actual.2.Shows expected.2

theorem Shows.agree_add (shown : ring.Shows register) (key : Bytes) (world : World) :
    Agree (settle ring (Action.outcome (ring.add key) world) fun made => (.id made.1, made.2))
      (settle register ((register.add key).mapError .fault) fun made => (.id made.1, made.2)) := by
  obtain ⟨⟨accessKey, formed⟩, rfl⟩ := shown
  have last : ring.register.last = ring.maxId := rfl
  have most : (4294967295 : KeyId) = maxKeyId := rfl
  rw [outcome_add, Register.add, last, most]
  by_cases empty : key = []
  · rw [if_pos empty, if_pos empty]
    exact ⟨rfl, ⟨accessKey, formed⟩, rfl⟩
  · by_cases full : ring.maxId = maxKeyId
    · rw [if_neg empty, if_neg empty, if_pos full, if_pos full]
      exact ⟨rfl, ⟨accessKey, formed⟩, rfl⟩
    · rw [if_neg empty, if_neg empty, if_neg full, if_neg full]
      exact ⟨rfl, ⟨accessKey, formed.effect (.added empty full)⟩, register_insert formed full key⟩

theorem Shows.agree_addRandom (shown : ring.Shows register) (length : Nat) (world : World) :
    Agree (settle ring (Action.outcome (ring.addRandom length) world) fun made => (.id made.1, made.2))
      (settle register ((register.addRandom world.supply length).mapError .fault)
        fun made => (.id made.1, made.2)) := by
  rw [outcome_addRandom, Register.addRandom]
  by_cases none : length = 0
  · rw [if_pos none, if_pos none]
    exact ⟨rfl, shown⟩
  · rw [if_neg none, if_neg none]
    cases world.supply.take length with
    | error fault => exact ⟨rfl, shown⟩
    | ok given => exact shown.agree_add given.1 world

theorem Shows.agree_activate (shown : ring.Shows register) (id : KeyId) (world : World) :
    Agree (settle ring (Action.outcome (ring.activate id) world) fun next => (.done, next))
      (settle register ((register.activate id).mapError .fault) fun next => (.done, next)) := by
  obtain ⟨⟨accessKey, formed⟩, rfl⟩ := shown
  have stored : id ∈ ring.register.keys ↔ (ring.view.keys.find? id).isSome := by
    have contains := ring.view.has_eq_contains id
    rw [Std.ExtTreeMap.mem_iff_contains]
    exact contains ▸ Iff.rfl
  rw [outcome_activate, Register.activate]
  by_cases present : (ring.view.keys.find? id).isSome
  · obtain ⟨position, found⟩ := Option.isSome_iff_exists.mp present
    let view : Snapshot := ⟨ring.view.keys, position, KeySet.lt_length_of_find? found⟩
    have activated : ring.view.activate id = .ok view := Snapshot.activate_eq_ok_iff.mpr ⟨found, rfl⟩
    have active : view.activeId = id := Snapshot.activeId_of_activate activated
    rw [activated, if_pos (stored.mpr present)]
    refine ⟨rfl, ⟨accessKey, formed.effect (.activated activated)⟩, ?_⟩
    change Ring.register { ring with view := view } = { ring.register with active := id }
    rw [← active]
    rfl
  · have refused : ring.view.activate id = .error (.noSuchKey id) := by
      unfold Snapshot.activate
      split
      next position found => simp [found] at present
      next => rfl
    rw [refused, if_neg fun member => present (stored.mp member)]
    exact ⟨rfl, ⟨accessKey, formed⟩, rfl⟩

theorem Shows.agree_rekey (shown : ring.Shows register) (key : Bytes) (salt : Option Bytes) (world : World) :
    Agree (serve world ring (.rekey key salt)) (register.serve world (.rekey key salt)) := by
  obtain ⟨⟨accessKey, formed⟩, rfl⟩ := shown
  refine ⟨rfl, ?_⟩
  change (settle ring (Action.outcome (ring.rekey key salt) world) fun next => (.done, next)).2.Shows ring.register
  unfold Action.outcome
  cases rekeyed : ring.rekey key salt world with
  | error failure later => exact ⟨⟨accessKey, formed⟩, rfl⟩
  | ok next later =>
    obtain ⟨_, wrappedKey, wrapped, rfl⟩ := (rekey_eq_ok_iff world).mp ⟨later, rekeyed⟩
    have opens := Sealing.openWith_eq_ok_iff.mpr ⟨_, Supply.length_segment _ _ _, wrapped⟩
    have effect : Effect ring [.rekeyed key salt]
        { ring with wrappedKey := wrappedKey, salt := salt.getD ring.salt } := .rekeyed opens
    exact ⟨⟨key, formed.effect effect⟩, rfl⟩

/-- A call that is made with a ring and with the register that shows it. -/
theorem Shows.agree (shown : ring.Shows register) (world : World) (call : Call) :
    Agree (serve world ring call) (register.serve world call) := by
  cases call with
  | add key => exact shown.agree_add key world
  | addRandom length => exact shown.agree_addRandom length world
  | activate id => exact shown.agree_activate id world
  | rekey key salt => exact shown.agree_rekey key salt world
  | write sink =>
    refine ⟨rfl, ?_⟩
    change (settle ring (Action.outcome (ring.write sink) world) fun _ => (.done, ring)).2.Shows register
    cases Action.outcome (ring.write sink) world <;> exact shown

theorem Shows.answer_eq (shown : ring.Shows register) (query : Query) :
    ring.answer query = register.toKeyMap.answer query := by
  obtain ⟨⟨accessKey, formed⟩, rfl⟩ := shown
  have answered := Snapshot.answer_keyMap formed.ascending query
  cases query <;> exact answered

end Ring

/-- A map shows a snapshot with its keys in order. -/
def Snapshot.Shows (view : Snapshot) (map : KeyMap) : Prop :=
  KeySet.Ascending view.keys.entries ∧ view.keyMap = map

/-- Moves made with a ring, and with a register that shows it, get the same replies. The snapshots that were taken
on the way stay shown by the maps that were taken with them. -/
theorem Face.replies_eq {ring : Ring} {register : Register} {views : List Snapshot} {maps : List KeyMap}
    (shown : ring.Shows register) (held : List.Forall₂ Snapshot.Shows views maps) (moves : List (World × Move)) :
    Ring.face.replies ring views moves = Register.face.replies register maps moves := by
  -- Along the moves, the register shows the ring, and each map shows the snapshot taken with it.
  induction moves generalizing ring register views maps with
  | nil => rfl
  | cons made rest ih =>
    obtain ⟨world, move⟩ := made
    simp only [replies]
    cases move with
    | call call =>
      obtain ⟨reply, after⟩ := shown.agree world call
      exact List.cons_eq_cons.mpr ⟨reply, ih after held⟩
    | ask query =>
      have answered := shown.answer_eq query
      exact List.cons_eq_cons.mpr ⟨by simp only [step, Ring.face, Register.face, answered], ih shown held⟩
    | askLargest =>
      obtain ⟨_, rfl⟩ := shown
      exact List.cons_eq_cons.mpr ⟨rfl, ih ⟨‹_›, rfl⟩ held⟩
    | take =>
      have taken : ring.view.Shows register.toKeyMap := by
        obtain ⟨⟨_, formed⟩, rfl⟩ := shown
        exact ⟨formed.ascending, rfl⟩
      exact List.cons_eq_cons.mpr ⟨rfl, ih shown (List.rel_append held (.cons taken .nil))⟩
    | askTaken index query =>
      have answered : views.map (·.answer query) = maps.map (·.answer query) := by
        induction held with
        | nil => rfl
        | cons both _ same =>
          obtain ⟨ascending, rfl⟩ := both
          rw [List.map_cons, List.map_cons, Snapshot.answer_keyMap ascending, same]
      have found : views[index]?.map (·.answer query) = maps[index]?.map (·.answer query) := by
        rw [← List.getElem?_map, answered, List.getElem?_map]
      have reply := congrArg (Option.map (Except.mapError (Failure.fault : Fault → Failure RingError))) found
      rw [Option.map_map, Option.map_map] at reply
      exact List.cons_eq_cons.mpr ⟨reply, ih shown held⟩

namespace Ring

/-- The rings that are made anew or read, with what their callers are to know of them. -/
inductive Begins : Ring → Register → Prop
  | new {config : Config} {ring : Ring} {world later : World} :
      new config world = .ok ring later → Begins ring (.single config.initialKey)
  | read {source : Source} {credential : Credential} {ring : Ring} {world later : World} {data : Bytes}
      {layers : Layers} :
      read source credential world = .ok ring later → source.contents = .ok data →
      Layers.Of layers data credential → Begins ring (.ofPackets layers.inner)

theorem Begins.of_origin {ring : Ring} {accessKey : Bytes} (origin : Origin ring accessKey) :
    ∃ register, Begins ring register := by
  cases origin with
  | new made => exact ⟨_, .new made⟩
  | @read source credential ring world later accepted =>
    obtain ⟨data, layers, contents, opened, _⟩ := (read_eq_ok_iff world).mp ⟨later, accepted⟩
    exact ⟨_, .read accepted contents opened⟩

/-- The key at the first position has the lowest id. -/
theorem minKey?_of_active_eq_zero {view : Snapshot} (ascending : KeySet.Ascending view.keys.entries)
    (lowest : view.active = 0) : (KeyMap.keysOf view.keys.entries).minKey? = some view.activeId := by
  have position : view.activeEntry = view.keys.entries.get ⟨0, lowest ▸ view.active_lt⟩ := by
    simp only [Snapshot.activeEntry, List.get_eq_getElem, lowest]
  rw [Std.ExtTreeMap.minKey?_eq_some_iff_mem_and_forall]
  refine ⟨KeyMap.mem_keysOf.mpr view.activeId_mem, ?_⟩
  intro id member
  obtain ⟨entry, inside, rfl⟩ := List.mem_map.mp (KeyMap.mem_keysOf.mp member)
  obtain ⟨i, within, rfl⟩ := List.mem_iff_getElem.mp inside
  rw [Std.isLE_compare, Snapshot.activeId, position]
  by_cases first : i = 0
  · subst first
    exact UInt32.le_refl _
  · exact UInt32.le_of_lt (List.pairwise_iff_getElem.mp ascending 0 i _ within (by omega))

theorem maxKey?_keysOf {keys : KeySet} (ascending : KeySet.Ascending keys.entries) (stored : keys.entries ≠ []) :
    (KeyMap.keysOf keys.entries).maxKey? = some keys.maxId := by
  rw [Std.ExtTreeMap.maxKey?_eq_some_iff_mem_and_forall]
  refine ⟨KeyMap.mem_keysOf.mpr (KeySet.maxId_mem stored), ?_⟩
  intro id member
  obtain ⟨entry, inside, rfl⟩ := List.mem_map.mp (KeyMap.mem_keysOf.mp member)
  rw [Std.isLE_compare]
  exact KeySet.le_maxId ascending inside

/-- The register of a described bundle is that of the packets. -/
theorem register_ofPackets {packets : List Packet} {bundle : Bundle} (described : Bundle.Describes packets bundle) :
    (⟨bundle.view.keyMap, bundle.view.keys.maxId⟩ : Register) = .ofPackets packets := by
  have stored := bundle.view.entries_ne_nil
  have keys : KeyMap.keysOf bundle.view.keys.entries = KeyMap.keysOf (Bundle.entries packets) :=
    KeyMap.keysOf_perm described.perm described.ascending.distinct
  have active : bundle.view.activeId = (Bundle.recordedActive packets).getD
      ((KeyMap.keysOf bundle.view.keys.entries).minKey?.getD 0) := by
    have follows := described.active
    cases recorded : Bundle.recordedActive packets with
    | some id =>
      rw [recorded] at follows
      exact follows
    | none =>
      rw [recorded] at follows
      rw [minKey?_of_active_eq_zero described.ascending follows]
      rfl
  rw [Register.ofPackets, ← keys, maxKey?_keysOf described.ascending stored, Snapshot.keyMap, active]
  rfl

theorem Begins.shows {ring : Ring} {register : Register} (begins : Begins ring register) : ring.Shows register := by
  cases begins with
  | @new config ring world later made =>
    have formed := (Origin.new made).wellFormed
    obtain ⟨_, _, _, wrappedKey, _, rfl⟩ := (new_eq_ok_iff world).mp ⟨later, made⟩
    exact ⟨⟨_, formed⟩, rfl⟩
  | @read source credential ring world later data layers accepted contents opened =>
    have readBack := (read_eq_ok_iff world).mpr ⟨data, layers, contents, opened, rfl⟩
    obtain ⟨ended, again⟩ := readBack
    have same : ring = layers.ring := by
      rw [accepted] at again
      exact (EStateM.Result.ok.inj again).1
    subst same
    exact ⟨⟨_, Layers.wellFormed opened⟩, register_ofPackets opened.described⟩

/-- A keyring is a finite map with an active id and the largest id that was given out. Whatever is done with it, and
with the snapshots that are taken of it on the way, its replies are those of the map. -/
theorem refines_register :
    (∀ ring accessKey, Origin ring accessKey → ∃ register, Begins ring register) ∧
      ∀ ring register, Begins ring register → ∀ moves : List (World × Move),
        Ring.face.replies ring [] moves = Register.face.replies register [] moves :=
  ⟨fun _ _ origin => Begins.of_origin origin, fun _ _ begins moves => Face.replies_eq begins.shows .nil moves⟩

section Sample

/-- Calls that work out and calls that fail, with questions to the ring and to a snapshot in between. -/
def sampleMoves : List (World × Move) :=
  [.call (.add [8]), .take, .call (.activate 2), .call (.add []), .call (.rekey [] none), .ask .getActive,
    .askTaken 0 .getActive, .askTaken 0 (.append 2 [1]), .ask (.get 3), .call (.addRandom 2), .ask .ids,
    .askTaken 0 .ids, .askLargest].map (worldFrom [], ·)

theorem refines_register_sample :
    Ring.face.replies sample [] sampleMoves =
      [some (.ok (.id 2)), none, some (.ok .done), some (.error (.fault .keyEmpty)), none,
        some (.ok (.entry 2 [8])), some (.ok (.entry 1 [7])), some (.ok (.key [1, 8])),
        some (.error (.fault (.noSuchKey 3))), some (.ok (.id 3)), some (.ok (.ids [1, 2, 3])),
        some (.ok (.ids [1, 2])), some (.ok (.id 3))] := by
  obtain ⟨register, begins⟩ := refines_register.1 _ _ sample_origin
  have single : register = .single [7] := begins.shows.2.symm
  rw [refines_register.2 _ _ begins, single]
  rfl

end Sample

end Ring

end Keyring
