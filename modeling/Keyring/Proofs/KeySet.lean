import Keyring.Ring.Snapshot
import Mathlib.Data.List.TakeWhile

namespace Keyring

namespace KeySet

/-- Entries with ever larger ids. -/
def Ascending (entries : List Entry) : Prop :=
  entries.Pairwise (·.id < ·.id)

theorem repeated?_eq_none_iff {entries : List Entry} (ordered : entries.Pairwise (·.id ≤ ·.id)) :
    repeated? entries = none ↔ Ascending entries := by
  unfold Ascending
  fun_induction repeated? entries with
  | case1 first second rest same =>
    simp [same]
  | case2 first second rest different ih =>
    obtain ⟨front, others⟩ := List.pairwise_cons.mp ordered
    have step : first.id < second.id :=
      UInt32.lt_of_le_of_ne (front second List.mem_cons_self) different
    rw [ih others]
    constructor
    · intro ascending
      refine List.pairwise_cons.mpr ⟨?_, ascending⟩
      intro entry member
      rcases List.mem_cons.mp member with rfl | later
      · exact step
      · exact UInt32.lt_trans step ((List.pairwise_cons.mp ascending).1 entry later)
    · exact fun ascending => (List.pairwise_cons.mp ascending).2
  | case3 entries short =>
    match entries, short with
    | [], _ => simp
    | [single], _ => simp
    | first :: second :: rest, short => exact absurd rfl (short first second rest)

theorem Ascending.distinct {entries : List Entry} (ascending : Ascending entries) :
    entries.Pairwise (·.id ≠ ·.id) :=
  ascending.imp UInt32.ne_of_lt

theorem Ascending.eq_of_perm {entries others : List Entry} (perm : entries.Perm others)
    (ascending : Ascending entries) (othersAscending : Ascending others) : entries = others :=
  perm.eq_of_pairwise (fun _ _ _ _ less more => absurd less (UInt32.lt_asymm more))
    ascending othersAscending

theorem pairwise_sorted (entries : List Entry) :
    (entries.mergeSort fun a b => decide (a.id ≤ b.id)).Pairwise (·.id ≤ ·.id) := by
  have sorted : (entries.mergeSort fun a b => decide (a.id ≤ b.id)).Pairwise
      fun a b => decide (a.id ≤ b.id) :=
    List.pairwise_mergeSort (by simpa using fun a b c => UInt32.le_trans)
      (by simpa using fun a b => UInt32.le_total _ _) entries
  simpa using sorted

/-- Entries of which no two share an id can be put in order. -/
theorem ascending_sorted {entries : List Entry} (distinct : entries.Pairwise (·.id ≠ ·.id)) :
    Ascending (entries.mergeSort fun a b => decide (a.id ≤ b.id)) := by
  have perm := List.mergeSort_perm entries fun a b => decide (a.id ≤ b.id)
  have apart := (perm.symm.pairwise_iff fun ne => Ne.symm ne).mp distinct
  exact (pairwise_sorted entries).imp₂ (fun _ _ le ne => UInt32.lt_of_le_of_ne le ne) apart

/-- Putting entries in order works out exactly if no two of them share an id. -/
theorem ofEntries_eq_ok_iff {entries : List Entry} {keys : KeySet} :
    ofEntries entries = .ok keys ↔ keys.entries.Perm entries ∧ Ascending keys.entries := by
  have perm := List.mergeSort_perm entries fun a b => decide (a.id ≤ b.id)
  have ordered := pairwise_sorted entries
  unfold ofEntries
  constructor
  · intro made
    dsimp only at made
    split at made
    · cases made
    next unrepeated =>
      cases made
      exact ⟨perm, (repeated?_eq_none_iff ordered).mp unrepeated⟩
  · rintro ⟨same, ascending⟩
    have sorted := ascending_sorted ((same.pairwise_iff fun ne => Ne.symm ne).mp ascending.distinct)
    have unrepeated := (repeated?_eq_none_iff ordered).mpr sorted
    dsimp only
    rw [unrepeated, sorted.eq_of_perm (perm.trans same.symm) ascending]

/-- Every entry of an ascending set is found at its own position. -/
theorem find?_getElem {keys : KeySet} (ascending : Ascending keys.entries) {i : Nat}
    (within : i < keys.entries.length) : keys.find? keys.entries[i].id = some i := by
  refine List.findIdx?_eq_some_iff_getElem.mpr ⟨within, by simp, ?_⟩
  intro j before
  have less := List.pairwise_iff_getElem.mp ascending j i (by omega) within before
  simpa using UInt32.ne_of_lt less

theorem maxId_eq_getLast {keys : KeySet} (nonempty : keys.entries ≠ []) :
    keys.maxId = (keys.entries.getLast nonempty).id := by
  simp [maxId, List.getLast?_eq_some_getLast nonempty]

/-- The last entry of an ascending set has the largest id. -/
theorem le_maxId {keys : KeySet} (ascending : Ascending keys.entries) {entry : Entry}
    (member : entry ∈ keys.entries) : entry.id ≤ keys.maxId := by
  have nonempty := List.ne_nil_of_mem member
  rw [maxId_eq_getLast nonempty]
  have split := List.dropLast_concat_getLast nonempty
  have ordered : Ascending (keys.entries.dropLast ++ [keys.entries.getLast nonempty]) := by
    rw [split]
    exact ascending
  rw [← split] at member
  rcases List.mem_append.mp member with earlier | last
  · exact UInt32.le_of_lt
      ((List.pairwise_append.mp ordered).2.2 entry earlier _ (List.mem_singleton_self _))
  · rw [List.mem_singleton.mp last]
    exact UInt32.le_refl _

theorem maxId_mem {keys : KeySet} (nonempty : keys.entries ≠ []) : keys.maxId ∈ keys.ids := by
  rw [maxId_eq_getLast nonempty]
  exact List.mem_map_of_mem (List.getLast_mem nonempty)

section Above

variable {keys : KeySet} {entry : Entry} (above : ∀ other ∈ keys.entries, other.id < entry.id)
include above

/-- An id above all others goes to the end. -/
theorem insert_above : keys.insert entry = ⟨keys.entries ++ [entry]⟩ := by
  have all : ∀ other ∈ keys.entries, decide (other.id < entry.id) = true := by simpa using above
  rw [insert, List.takeWhile_eq_self_iff.mpr all, List.dropWhile_eq_nil_iff.mpr all]

theorem rank_above : keys.rank entry.id = keys.length := by
  have all : ∀ other ∈ keys.entries, decide (other.id < entry.id) = true := by simpa using above
  rw [rank, List.takeWhile_eq_self_iff.mpr all, length]

theorem Ascending.append (ascending : Ascending keys.entries) : Ascending (keys.entries ++ [entry]) := by
  refine List.pairwise_append.mpr ⟨ascending, List.pairwise_singleton _ _, ?_⟩
  simpa using above

end Above

end KeySet

namespace Snapshot

theorem ext_of {view other : Snapshot} (sameKeys : view.keys = other.keys) (sameActive : view.active = other.active) :
    view = other := by
  cases view
  cases other
  simp_all

theorem activeId_mem (view : Snapshot) : view.activeId ∈ view.ids :=
  List.mem_map_of_mem (List.get_mem _ _)

theorem entries_ne_nil (view : Snapshot) : view.keys.entries ≠ [] := by
  intro empty
  have bound := view.active_lt
  simp [KeySet.length, empty] at bound

/-- The active key is found at the active position. -/
theorem find?_activeId {view : Snapshot} (ascending : KeySet.Ascending view.keys.entries) :
    view.keys.find? view.activeId = some view.active :=
  KeySet.find?_getElem ascending view.active_lt

/-- Activating finds the id and changes nothing else. -/
theorem activate_eq_ok_iff {view next : Snapshot} {id : KeyId} :
    view.activate id = .ok next ↔ view.keys.find? id = some next.active ∧ next.keys = view.keys := by
  unfold activate
  constructor
  · intro activated
    split at activated
    next position found =>
      cases activated
      exact ⟨found, rfl⟩
    · cases activated
  · rintro ⟨found, sameKeys⟩
    split
    next position at_position =>
      rw [at_position] at found
      exact congrArg Except.ok (ext_of sameKeys.symm (Option.some.inj found))
    next absent =>
      rw [absent] at found
      cases found

/-- A stored key can be made the active one. -/
theorem activate_of_has {view : Snapshot} {id : KeyId} (has : view.has id = true) :
    ∃ next, view.activate id = .ok next := by
  obtain ⟨position, found⟩ := Option.isSome_iff_exists.mp has
  exact ⟨⟨view.keys, position, KeySet.lt_length_of_find? found⟩, activate_eq_ok_iff.mpr ⟨found, rfl⟩⟩

theorem activeId_of_find? {view : Snapshot} {id : KeyId} (found : view.keys.find? id = some view.active) :
    view.activeId = id := by
  obtain ⟨within, here, _⟩ := List.findIdx?_eq_some_iff_getElem.mp found
  exact beq_iff_eq.mp here

theorem activeId_of_activate {view next : Snapshot} {id : KeyId} (activated : view.activate id = .ok next) :
    next.activeId = id := by
  obtain ⟨found, sameKeys⟩ := activate_eq_ok_iff.mp activated
  rw [← sameKeys] at found
  exact activeId_of_find? found

section Above

variable {view : Snapshot} {entry : Entry} (above : ∀ other ∈ view.keys.entries, other.id < entry.id)
include above

theorem entries_insert_above : (view.insert entry).keys.entries = view.keys.entries ++ [entry] := by
  have whole := congrArg KeySet.entries (KeySet.insert_above above)
  unfold insert
  split <;> exact whole

theorem active_insert_above : (view.insert entry).active = view.active := by
  have bound := view.active_lt
  have last := KeySet.rank_above above
  unfold insert
  rw [if_neg (by omega)]

theorem has_insert_above : (view.insert entry).has entry.id = true := by
  simp [has, KeySet.find?, entries_insert_above above]

/-- A key with an id above all others leaves the active key as it is. -/
theorem activeId_insert_above : (view.insert entry).activeId = view.activeId := by
  have bound := view.active_lt
  simp only [activeId, activeEntry, List.get_eq_getElem, active_insert_above above,
    entries_insert_above above]
  rw [List.getElem_append_left]

end Above

end Snapshot

end Keyring
