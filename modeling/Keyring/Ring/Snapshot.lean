import Keyring.Fault
import Keyring.Ring.KeySet

namespace Keyring

/-- A set of keys, one of which is active. -/
structure Snapshot where
  keys : KeySet
  /-- The position of the active key. -/
  active : Nat
  active_lt : active < keys.length
  deriving DecidableEq

namespace Snapshot

/-- One key under the id 1. -/
def single (key : Bytes) : Snapshot :=
  ⟨.single ⟨1, key⟩, 0, Nat.zero_lt_one⟩

/-- One key under the id 1, which must not be empty. -/
def ofKey (key : Bytes) : Except Fault Snapshot :=
  if key.isEmpty then .error .keyEmpty else .ok (single key)

def length (view : Snapshot) : Nat :=
  view.keys.length

def isEmpty (view : Snapshot) : Bool :=
  view.keys.entries.isEmpty

def ids (view : Snapshot) : List KeyId :=
  view.keys.ids

def activeEntry (view : Snapshot) : Entry :=
  view.keys.entries.get ⟨view.active, view.active_lt⟩

def activeId (view : Snapshot) : KeyId :=
  view.activeEntry.id

def has (view : Snapshot) (id : KeyId) : Bool :=
  (view.keys.find? id).isSome

/-- The key of an id. -/
def get (view : Snapshot) (id : KeyId) : Except Fault Bytes :=
  match view.keys.entries.find? (·.id == id) with
  | some entry => .ok entry.key
  | none => .error (.noSuchKey id)

/-- The buffer followed by the key of an id. -/
def append (view : Snapshot) (id : KeyId) (buffer : Bytes) : Except Fault Bytes :=
  (view.get id).map (buffer ++ ·)

/-- The active id and its key. -/
def getActive (view : Snapshot) : KeyId × Bytes :=
  (view.activeId, view.activeEntry.key)

/-- The active id, and the buffer followed by its key. -/
def appendActive (view : Snapshot) (buffer : Bytes) : KeyId × Bytes :=
  (view.activeId, buffer ++ view.activeEntry.key)

/-- The snapshot with one more key. The active key moves up if the new one goes before it. -/
def insert (view : Snapshot) (entry : Entry) : Snapshot :=
  if view.keys.rank entry.id ≤ view.active then
    ⟨view.keys.insert entry, view.active + 1, by
      have bound := view.active_lt
      simp only [KeySet.length_insert]
      omega⟩
  else
    ⟨view.keys.insert entry, view.active, by
      have bound := view.active_lt
      simp only [KeySet.length_insert]
      omega⟩

/-- The snapshot with another key active. -/
def activate (view : Snapshot) (id : KeyId) : Except Fault Snapshot :=
  match found : view.keys.find? id with
  | some position => .ok ⟨view.keys, position, KeySet.lt_length_of_find? found⟩
  | none => .error (.noSuchKey id)

/-- What may be said of a snapshot. -/
def summary (view : Snapshot) : String :=
  s!"View \x7b keys: {view.keys.summary}, active: {view.active} \x7d"

end Snapshot

end Keyring
