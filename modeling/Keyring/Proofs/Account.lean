import Keyring.Proofs.Steps

namespace Keyring

/-- What a keyring is said to hold. -/
structure Account where
  /-- The keys in the order of their ids, which are 1, 2 and so on. -/
  keys : List Bytes
  /-- The id of the active key. -/
  active : Nat
  /-- The passphrase that was set last. -/
  passphrase : String

namespace Account

/-- The keys with their ids. -/
def numbered (account : Account) : List (Nat × Bytes) :=
  account.keys.mapIdx fun i key => (i + 1, key)

/-- The line of one key, with its contents. -/
def keyLine (account : Account) (id : Nat) (key : Bytes) : String :=
  let mark := if id = account.active then " [active]" else ""
  s!"{id}: {KeyText.ofBytes key}{mark}\n"

/-- The number of keys, and a line for each. -/
def listing (account : Account) : String :=
  s!"# {account.keys.length} total\n" ++
    String.join (account.numbered.map fun (id, key) => account.keyLine id key)

/-- The account with one more key, which becomes the active one if that is asked for. -/
def grown (account : Account) (key : Bytes) (activates : Bool) : Account :=
  ⟨account.keys ++ [key], if activates then account.keys.length + 1 else account.active, account.passphrase⟩

/-- What is said when a key is added. -/
def growth (account : Account) (key : Bytes) (activates : Bool) : String :=
  let id := account.keys.length + 1
  let activation := if activates then s!"Activated new key id {id}\n" else ""
  s!"Added key id {id} ({key.length} bytes)\n" ++ activation

theorem textBytes_growth (account : Account) (key : Bytes) (activates : Bool) :
    textBytes (account.growth key activates) =
      textBytes s!"Added key id {account.keys.length + 1} ({key.length} bytes)\n" ++
        if activates then textBytes s!"Activated new key id {account.keys.length + 1}\n" else [] := by
  cases activates with
  | false => exact textBytes_append _ _
  | true => exact textBytes_append _ _

/-- A ring in order that holds what is said of it. -/
structure States (account : Account) (ring : Ring) : Prop where
  formed : ring.WellFormed (Credential.key (.passphrase account.passphrase) ring.salt)
  keys : ring.view.keys.entries.map (fun entry => (entry.id.toNat, entry.key)) = account.numbered
  active : ring.activeId.toNat = account.active

namespace States

variable {account : Account} {ring : Ring}

theorem length (stated : account.States ring) : ring.view.length = account.keys.length := by
  have same := congrArg List.length stated.keys
  simp only [numbered, List.length_map, List.length_mapIdx] at same
  exact same

/-- A ring's listing is that of its account. -/
theorem listing_eq (stated : account.States ring) : Listing.ofView true ring.view = account.listing := by
  have lines : ring.view.keys.entries.map (Listing.keyLine true ring.view.activeId) =
      account.numbered.map fun (id, key) => account.keyLine id key := by
    rw [← stated.keys, List.map_map]
    refine List.map_congr_left fun entry _ => ?_
    have same : entry.id = ring.view.activeId ↔ entry.id.toNat = account.active := by
      rw [← stated.active]
      exact UInt32.toNat_inj.symm
    simp only [Listing.keyLine, keyLine, Function.comp, same, if_true]
  rw [Listing.ofView, Account.listing, lines, stated.length]

/-- The ids of a ring are the numbers from 1 on. -/
theorem ids (stated : account.States ring) : ring.view.ids.map UInt32.toNat = List.range' 1 account.keys.length := by
  have numbers : account.numbered.map Prod.fst = List.range' 1 account.keys.length := by
    apply List.ext_getElem
    · simp [numbered]
    · intro i _ _
      simp [numbered, Nat.add_comm]
  rw [← numbers, ← stated.keys, Snapshot.ids, KeySet.ids, List.map_map, List.map_map]
  rfl

theorem mem_ids (stated : account.States ring) {id : KeyId} :
    id ∈ ring.view.ids ↔ 1 ≤ id.toNat ∧ id.toNat ≤ account.keys.length := by
  have numbers : id.toNat ∈ ring.view.ids.map UInt32.toNat ↔ 1 ≤ id.toNat ∧ id.toNat ≤ account.keys.length := by
    rw [stated.ids, List.mem_range'_1]
    omega
  rw [← numbers]
  constructor
  · exact List.mem_map_of_mem
  · intro member
    obtain ⟨other, inside, same⟩ := List.mem_map.mp member
    rwa [← UInt32.toNat_inj.mp same]

theorem has_iff (stated : account.States ring) {id : KeyId} :
    ring.has id = true ↔ 1 ≤ id.toNat ∧ id.toNat ≤ account.keys.length := by
  rw [← stated.mem_ids]
  simp [Ring.has, Snapshot.has, KeySet.find?, Snapshot.ids, KeySet.ids]

/-- The largest id is the number of keys. -/
theorem maxId (stated : account.States ring) : ring.maxId.toNat = account.keys.length := by
  have formed := stated.formed
  have largest : ring.maxId ∈ ring.view.ids := by
    rw [formed.maxId]
    exact KeySet.maxId_mem ring.view.entries_ne_nil
  obtain ⟨low, high⟩ := stated.mem_ids.mp largest
  have last : account.keys.length ∈ ring.view.ids.map UInt32.toNat := by
    rw [stated.ids, List.mem_range'_1]
    omega
  obtain ⟨id, stored, same⟩ := List.mem_map.mp last
  obtain ⟨entry, member, rfl⟩ := List.mem_map.mp stored
  have bound := KeySet.le_maxId formed.ascending member
  rw [← formed.maxId, UInt32.le_iff_toNat_le] at bound
  omega

section Calls

variable {next : Ring} {world later : World}

/-- A new ring holds its one key. -/
theorem of_new {key salt : Bytes} {passphrase : String}
    (made : Ring.new ⟨key, Credential.key (.passphrase passphrase) salt, some salt⟩ world = .ok ring later) :
    States ⟨[key], 1, passphrase⟩ ring := by
  have formed := (Ring.Origin.new made).wellFormed
  obtain ⟨-, -, -, _, -, rfl⟩ := (Ring.new_eq_ok_iff world).mp ⟨later, made⟩
  exact ⟨formed, rfl, rfl⟩

/-- Another key goes to the end, under the next number. -/
theorem add {key : Bytes} {id : KeyId} (stated : account.States ring)
    (added : ring.add key world = .ok (id, next) later) :
    id.toNat = account.keys.length + 1 ∧ (account.grown key false).States next := by
  obtain ⟨nonempty, room, rfl, rfl⟩ := (Ring.add_eq_ok_iff world).mp ⟨later, added⟩
  have formed := stated.formed
  have above : ∀ other ∈ ring.view.keys.entries, other.id < (⟨ring.maxId + 1, key⟩ : Entry).id := formed.lt_next room
  have number : (ring.maxId + 1).toNat = account.keys.length + 1 := by
    have count := stated.maxId
    have below : ring.maxId.toNat ≠ Ring.maxKeyId.toNat := fun same => room (UInt32.toNat_inj.mp same)
    have limit := ring.maxId.toNat_lt
    simp only [Ring.maxKeyId, UInt32.toNat_add, UInt32.toNat_ofNat] at below ⊢
    omega
  refine ⟨number, formed.effect (.added nonempty room), ?_, ?_⟩
  · change (ring.view.insert ⟨ring.maxId + 1, key⟩).keys.entries.map _ = _
    rw [Snapshot.entries_insert_above above, List.map_append, stated.keys]
    simp [numbered, grown, List.mapIdx_append, number]
  · change (ring.view.insert ⟨ring.maxId + 1, key⟩).activeId.toNat = account.active
    rw [Snapshot.activeId_insert_above above]
    exact stated.active

theorem activate {id : KeyId} (stated : account.States ring) (activated : ring.activate id world = .ok next later) :
    States { account with active := id.toNat } next := by
  obtain ⟨view, found, rfl⟩ := (Ring.activate_eq_ok_iff world).mp ⟨later, activated⟩
  obtain ⟨-, sameKeys⟩ := Snapshot.activate_eq_ok_iff.mp found
  refine ⟨stated.formed.effect (.activated found), ?_, ?_⟩
  · change view.keys.entries.map _ = _
    rw [sameKeys]
    exact stated.keys
  · exact congrArg UInt32.toNat (Snapshot.activeId_of_activate found)

theorem rekey {salt : Bytes} {passphrase : String} (stated : account.States ring)
    (rekeyed : ring.rekey (Credential.key (.passphrase passphrase) salt) (some salt) world = .ok next later) :
    States { account with passphrase := passphrase } next := by
  obtain ⟨-, wrappedKey, wrapped, rfl⟩ := (Ring.rekey_eq_ok_iff world).mp ⟨later, rekeyed⟩
  have opens := Sealing.openWith_eq_ok_iff.mpr ⟨_, Supply.length_segment _ _ _, wrapped⟩
  exact ⟨stated.formed.effect (.rekeyed opens), stated.keys, stated.active⟩

end Calls

end States

end Account

end Keyring
