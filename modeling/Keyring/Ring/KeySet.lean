import Keyring.Container.Record
import Keyring.Secret

namespace Keyring

/-- Keys in ascending order of their ids. -/
structure KeySet where
  entries : List Entry
  deriving DecidableEq

namespace KeySet

/-- The first id that the next entry shares. -/
def repeated? : List Entry → Option KeyId
  | first :: second :: rest =>
    if first.id = second.id then some first.id else repeated? (second :: rest)
  | _ => none

/-- The entries put in order, or the smallest id that two of them share. -/
def ofEntries (entries : List Entry) : Except KeyId KeySet :=
  let sorted := entries.mergeSort fun a b => a.id ≤ b.id
  match repeated? sorted with
  | some id => .error id
  | none => .ok ⟨sorted⟩

def single (entry : Entry) : KeySet :=
  ⟨[entry]⟩

def length (keys : KeySet) : Nat :=
  keys.entries.length

def ids (keys : KeySet) : List KeyId :=
  keys.entries.map Entry.id

/-- The position of an id. -/
def find? (keys : KeySet) (id : KeyId) : Option Nat :=
  keys.entries.findIdx? (·.id == id)

/-- The largest id, or 0 if there is none. -/
def maxId (keys : KeySet) : KeyId :=
  match keys.entries.getLast? with
  | some entry => entry.id
  | none => 0

/-- The position at which a new id belongs. -/
def rank (keys : KeySet) (id : KeyId) : Nat :=
  (keys.entries.takeWhile (·.id < id)).length

/-- The keys with one more in its place. -/
def insert (keys : KeySet) (entry : Entry) : KeySet :=
  ⟨keys.entries.takeWhile (·.id < entry.id) ++ entry ::
    keys.entries.dropWhile (·.id < entry.id)⟩

/-- What may be said of the keys: their ids and lengths. -/
def summary (keys : KeySet) : String :=
  let each := keys.entries.map fun entry =>
    s!"KeyInfo \x7b id: {entry.id.toNat}, key: {Secret.summary ⟨entry.key⟩} \x7d"
  "SortedKeys \x7b keys: [" ++ String.intercalate ", " each ++ "] \x7d"

@[simp]
theorem length_insert (keys : KeySet) (entry : Entry) :
    (keys.insert entry).length = keys.length + 1 := by
  have both := congrArg List.length
    (List.takeWhile_append_dropWhile (p := fun other => other.id < entry.id) (l := keys.entries))
  simp only [List.length_append] at both
  simp only [insert, length, List.length_append, List.length_cons]
  omega

theorem lt_length_of_find? {keys : KeySet} {id : KeyId} {position : Nat}
    (found : keys.find? id = some position) : position < keys.length :=
  (List.findIdx?_eq_some_iff_getElem.mp found).1

end KeySet

end Keyring
