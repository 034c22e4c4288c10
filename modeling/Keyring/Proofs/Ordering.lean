import Keyring.Proofs.KeySet
import Mathlib.Data.List.InsertIdx
import Mathlib.Data.List.Perm.Basic

namespace Keyring

namespace KeySet

section Repeats

variable {entries : List Entry}

/-- An id that more than one entry has. -/
def Repeats (entries : List Entry) (id : KeyId) : Prop :=
  2 ≤ (entries.map Entry.id).count id

theorem Repeats.mem {id : KeyId} (repeats : Repeats entries id) : ∃ entry ∈ entries, entry.id = id := by
  have positive : 0 < (entries.map Entry.id).count id := Nat.lt_of_lt_of_le Nat.zero_lt_two repeats
  exact List.mem_map.mp (List.count_pos_iff.mp positive)

theorem repeats_perm {others : List Entry} (perm : entries.Perm others) (id : KeyId) :
    Repeats entries id ↔ Repeats others id := by
  rw [Repeats, Repeats, (perm.map Entry.id).count_eq]

/-- An entry below all others adds nothing that is repeated. -/
theorem repeats_cons_iff {first : Entry} (below : ∀ entry ∈ entries, first.id < entry.id) (id : KeyId) :
    Repeats (first :: entries) id ↔ Repeats entries id := by
  unfold Repeats
  rw [List.map_cons]
  by_cases same : first.id = id
  · have absent : id ∉ entries.map Entry.id := by
      intro member
      obtain ⟨entry, inside, equal⟩ := List.mem_map.mp member
      exact UInt32.ne_of_lt (below entry inside) (same.trans equal.symm)
    rw [← same, List.count_cons_self, same, List.count_eq_zero.mpr absent]
    omega
  · rw [List.count_cons_of_ne same]

/-- In ordered entries the first two that share an id share the smallest one that is repeated. -/
theorem repeated?_eq_some_iff (ordered : entries.Pairwise (·.id ≤ ·.id)) {id : KeyId} :
    repeated? entries = some id ↔ Repeats entries id ∧ ∀ other, Repeats entries other → id ≤ other := by
  fun_induction repeated? entries with
  | case1 first second rest same =>
    have repeats : Repeats (first :: second :: rest) first.id := by
      unfold Repeats
      rw [List.map_cons, List.map_cons, ← same, List.count_cons_self, List.count_cons_self]
      omega
    have least : ∀ other, Repeats (first :: second :: rest) other → first.id ≤ other := by
      intro other isRepeated
      obtain ⟨entry, member, rfl⟩ := isRepeated.mem
      rcases List.mem_cons.mp member with rfl | later
      · exact UInt32.le_refl _
      · exact (List.pairwise_cons.mp ordered).1 entry later
    constructor
    · intro found
      cases found
      exact ⟨repeats, least⟩
    · rintro ⟨isRepeated, lowest⟩
      exact congrArg some (UInt32.le_antisymm (least id isRepeated) (lowest first.id repeats))
  | case2 first second rest different ih =>
    obtain ⟨front, others⟩ := List.pairwise_cons.mp ordered
    have step : first.id < second.id := UInt32.lt_of_le_of_ne (front second List.mem_cons_self) different
    have below : ∀ entry ∈ second :: rest, first.id < entry.id := by
      intro entry member
      rcases List.mem_cons.mp member with rfl | later
      · exact step
      · exact UInt32.lt_of_lt_of_le step ((List.pairwise_cons.mp others).1 entry later)
    simp only [ih others, repeats_cons_iff below]
  | case3 entries short =>
    have few : entries.length ≤ 1 := by
      cases entries with
      | nil => exact Nat.zero_le _
      | cons first others =>
        cases others with
        | nil => exact Nat.le_refl _
        | cons second rest => exact absurd rfl (short first second rest)
    have unrepeated : ∀ id, ¬ Repeats entries id := by
      intro id repeats
      have most := List.count_le_length (l := entries.map Entry.id) (a := id)
      rw [List.length_map] at most
      unfold Repeats at repeats
      omega
    simp [unrepeated]

theorem pairwise_ne_iff : entries.Pairwise (·.id ≠ ·.id) ↔ ∃ keys, ofEntries entries = .ok keys := by
  constructor
  · intro distinct
    exact ⟨⟨_⟩, ofEntries_eq_ok_iff.mpr ⟨List.mergeSort_perm entries _, ascending_sorted distinct⟩⟩
  · rintro ⟨keys, made⟩
    obtain ⟨perm, ascending⟩ := ofEntries_eq_ok_iff.mp made
    exact (perm.pairwise_iff fun ne => Ne.symm ne).mp ascending.distinct

theorem ofEntries_eq_error_iff {id : KeyId} :
    ofEntries entries = .error id ↔ Repeats entries id ∧ ∀ other, Repeats entries other → id ≤ other := by
  have perm := List.mergeSort_perm entries fun a b => decide (a.id ≤ b.id)
  have least : repeated? (entries.mergeSort fun a b => decide (a.id ≤ b.id)) = some id ↔ _ :=
    repeated?_eq_some_iff (pairwise_sorted entries)
  simp only [repeats_perm perm] at least
  rw [← least]
  unfold ofEntries
  dsimp only
  split
  next found isFound => simp [isFound]
  next unfound => simp [unfound]

/-- However entries of one id are left standing when entries are sorted, what comes of them is the same. -/
theorem ofEntries_of_sorted {sorted : List Entry} (perm : sorted.Perm entries)
    (ordered : sorted.Pairwise (·.id ≤ ·.id)) :
    ofEntries entries =
      match repeated? sorted with
      | some id => .error id
      | none => .ok ⟨sorted⟩ := by
  cases found : repeated? sorted with
  | some id =>
    have least := (repeated?_eq_some_iff ordered).mp found
    simp only [repeats_perm perm] at least
    exact ofEntries_eq_error_iff.mpr least
  | none => exact ofEntries_eq_ok_iff.mpr ⟨perm, (repeated?_eq_none_iff ordered).mp found⟩

end Repeats

section Insert

variable {keys : KeySet} {entry : Entry}

theorem takeWhile_append_cons {α : Type} (holds : α → Bool) (list : List α) (value : α) :
    list.takeWhile holds ++ value :: list.dropWhile holds = list.insertIdx (list.takeWhile holds).length value := by
  induction list with
  | nil => rfl
  | cons first rest ih =>
    by_cases here : holds first = true
    · rw [List.takeWhile_cons_of_pos here, List.dropWhile_cons_of_pos here, List.length_cons,
        List.insertIdx_succ_cons, ← ih]
      rfl
    · rw [List.takeWhile_cons_of_neg here, List.dropWhile_cons_of_neg here]
      rfl

/-- A key goes to the position that its id belongs to, and the others keep their order. -/
theorem entries_insert (keys : KeySet) (entry : Entry) :
    (keys.insert entry).entries = keys.entries.insertIdx (keys.rank entry.id) entry :=
  takeWhile_append_cons _ _ _

theorem rank_le_length (keys : KeySet) (id : KeyId) : keys.rank id ≤ keys.entries.length :=
  (List.takeWhile_prefix _).length_le

theorem perm_insert (keys : KeySet) (entry : Entry) : (keys.insert entry).entries.Perm (entry :: keys.entries) := by
  rw [entries_insert]
  exact List.perm_insertIdx entry keys.entries (rank_le_length keys entry.id)

theorem getElem?_insert_rank (keys : KeySet) (entry : Entry) :
    (keys.insert entry).entries[keys.rank entry.id]? = some entry := by
  rw [entries_insert, List.getElem?_insertIdx_self, if_pos (rank_le_length keys entry.id)]

/-- From where a new id belongs on, all ids are larger. -/
theorem lt_of_mem_dropWhile {entries : List Entry} {id : KeyId} (ascending : Ascending entries)
    (new : ∀ other ∈ entries, other.id ≠ id) {other : Entry} (member : other ∈ entries.dropWhile (·.id < id)) :
    id < other.id := by
  induction entries with
  | nil => cases member
  | cons first rest ih =>
    obtain ⟨front, others⟩ := List.pairwise_cons.mp ascending
    by_cases smaller : first.id < id
    · rw [List.dropWhile_cons_of_pos (by simpa using smaller)] at member
      exact ih others (fun entry inside => new entry (List.mem_cons_of_mem _ inside)) member
    · rw [List.dropWhile_cons_of_neg (by simpa using smaller)] at member
      have least : id < first.id :=
        UInt32.lt_of_le_of_ne (UInt32.not_lt.mp smaller) (Ne.symm (new first List.mem_cons_self))
      rcases List.mem_cons.mp member with rfl | later
      · exact least
      · exact UInt32.lt_trans least (front other later)

theorem Ascending.insert (ascending : Ascending keys.entries) (new : entry.id ∉ keys.ids) :
    Ascending (keys.insert entry).entries := by
  have others : ∀ other ∈ keys.entries, other.id ≠ entry.id := by
    intro other member same
    exact new (List.mem_map.mpr ⟨other, member, same⟩)
  have parts := ascending
  unfold Ascending at parts
  rw [← List.takeWhile_append_dropWhile (p := fun other => decide (other.id < entry.id)) (l := keys.entries),
    List.pairwise_append] at parts
  obtain ⟨front, back, across⟩ := parts
  refine List.pairwise_append.mpr ⟨front, List.pairwise_cons.mpr ⟨?_, back⟩, ?_⟩
  · exact fun other member => lt_of_mem_dropWhile ascending others member
  · intro smaller inFront other member
    rcases List.mem_cons.mp member with rfl | inBack
    · simpa using List.mem_takeWhile_imp inFront
    · exact across smaller inFront other inBack

end Insert

theorem find?_eq_some_iff {keys : KeySet} (ascending : Ascending keys.entries) {id : KeyId} {i : Nat} :
    keys.find? id = some i ↔ keys.entries[i]?.map Entry.id = some id := by
  constructor
  · intro found
    obtain ⟨within, here, -⟩ := List.findIdx?_eq_some_iff_getElem.mp found
    rw [List.getElem?_eq_getElem within, Option.map_some, beq_iff_eq.mp here]
  · intro here
    obtain ⟨entry, atPosition, rfl⟩ := Option.map_eq_some_iff.mp here
    obtain ⟨within, rfl⟩ := List.getElem?_eq_some_iff.mp atPosition
    exact find?_getElem ascending within

section Search

/-- Halves the `size` positions from `low` on until one is left, and keeps the half that an id falls into. -/
def narrow (keys : KeySet) (id : KeyId) (low size : Nat) : Nat :=
  if size ≤ 1 then low
  else
    match keys.entries[low + size / 2]? with
    | some entry =>
      if id < entry.id then narrow keys id low (size - size / 2)
      else narrow keys id (low + size / 2) (size - size / 2)
    | none => low
termination_by size

/-- The position of an id, or else the one at which it belongs, found by halving. -/
def search (keys : KeySet) (id : KeyId) : Except Nat Nat :=
  let place := keys.narrow id 0 keys.length
  match keys.entries[place]? with
  | some entry =>
    if entry.id = id then .ok place
    else if entry.id < id then .error (place + 1)
    else .error place
  | none => .error 0

/-- Smaller ids stand before the `size` positions from `low` on, and larger ones behind them. -/
structure Brackets (keys : KeySet) (id : KeyId) (low size : Nat) : Prop where
  positive : 0 < size
  within : low + size ≤ keys.entries.length
  below : ∀ i (bound : i < keys.entries.length), i < low → keys.entries[i].id < id
  above : ∀ i (bound : i < keys.entries.length), low + size ≤ i → id < keys.entries[i].id

variable {keys : KeySet} {id : KeyId}

theorem Ascending.lt_of_lt (ascending : Ascending keys.entries) {i j : Nat} (less : i < j)
    (within : j < keys.entries.length) : keys.entries[i].id < keys.entries[j].id :=
  List.pairwise_iff_getElem.mp ascending i j (by omega) within less

theorem Brackets.narrow {low size : Nat} (brackets : Brackets keys id low size) (ascending : Ascending keys.entries) :
    Brackets keys id (keys.narrow id low size) 1 := by
  fun_induction KeySet.narrow keys id low size with
  | case1 low size single =>
    obtain rfl : size = 1 := by
      have positive := brackets.positive
      omega
    exact brackets
  | case2 low size several entry here smaller ih =>
    have within := brackets.within
    obtain ⟨bound, rfl⟩ := List.getElem?_eq_some_iff.mp here
    refine ih ⟨by omega, by omega, brackets.below, fun i inside behind => ?_⟩
    by_cases same : i = low + size / 2
    · subst same
      exact smaller
    · exact UInt32.lt_trans smaller (ascending.lt_of_lt (by omega) inside)
  | case3 low size several entry here notSmaller ih =>
    have within := brackets.within
    obtain ⟨bound, rfl⟩ := List.getElem?_eq_some_iff.mp here
    -- The entry in the middle may be the one that is looked for, so it stays in the half that is kept.
    refine ih ⟨by omega, by omega, fun i inside before => ?_, fun i inside behind => ?_⟩
    · exact UInt32.lt_of_lt_of_le (ascending.lt_of_lt before bound) (UInt32.not_lt.mp notSmaller)
    · exact brackets.above i inside (by omega)
  | case4 low size several outside =>
    have within := brackets.within
    have beyond := List.getElem?_eq_none_iff.mp outside
    omega

/-- An id belongs behind the smaller ones. -/
theorem rank_eq {place : Nat} (within : place ≤ keys.entries.length)
    (below : ∀ i (bound : i < keys.entries.length), i < place → keys.entries[i].id < id)
    (notBelow : ∀ i (bound : i < keys.entries.length), place ≤ i → ¬ keys.entries[i].id < id) :
    keys.rank id = place := by
  have front : ∀ other ∈ keys.entries.take place, decide (other.id < id) = true := by
    intro other member
    obtain ⟨i, bound, rfl⟩ := List.getElem_of_mem member
    rw [List.length_take] at bound
    rw [List.getElem_take]
    exact decide_eq_true (below i (by omega) (by omega))
  have back : (keys.entries.drop place).takeWhile (·.id < id) = [] := by
    by_cases atEnd : place = keys.entries.length
    · rw [List.drop_of_length_le (by omega)]
      rfl
    · have bound : place < keys.entries.length := by omega
      rw [List.drop_eq_getElem_cons bound,
        List.takeWhile_cons_of_neg (by simpa using notBelow place bound (Nat.le_refl _))]
  rw [rank, ← List.take_append_drop place keys.entries, List.takeWhile_append_of_pos front, back, List.append_nil,
    List.length_take, Nat.min_eq_left within]

/-- Halving finds what there is to be found, and otherwise where it belongs. -/
theorem search_eq (ascending : Ascending keys.entries) (id : KeyId) :
    keys.search id =
      match keys.find? id with
      | some position => .ok position
      | none => .error (keys.rank id) := by
  by_cases empty : keys.entries = []
  · simp [search, narrow, find?, rank, length, empty]
  · have initial : Brackets keys id 0 keys.length := by
      refine ⟨List.length_pos_iff.mpr empty, by rw [Nat.zero_add]; exact Nat.le_refl _, ?_, ?_⟩
      · intro i bound before
        omega
      · intro i bound behind
        unfold length at behind
        omega
    have last := initial.narrow ascending
    have within := last.within
    unfold search
    generalize keys.narrow id 0 keys.length = place at last within
    have bound : place < keys.entries.length := by omega
    simp only [List.getElem?_eq_getElem bound]
    by_cases here : keys.entries[place].id = id
    · have found := find?_getElem ascending bound
      rw [here] at found
      rw [if_pos here, found]
    · have absent : keys.find? id = none := by
        refine List.findIdx?_eq_none_iff.mpr fun other member => ?_
        obtain ⟨i, inside, rfl⟩ := List.getElem_of_mem member
        refine beq_eq_false_iff_ne.mpr ?_
        rcases Nat.lt_trichotomy i place with before | same | behind
        · exact UInt32.ne_of_lt (last.below i inside before)
        · subst same
          exact here
        · exact Ne.symm (UInt32.ne_of_lt (last.above i inside behind))
      rw [if_neg here, absent]
      by_cases smaller : keys.entries[place].id < id
      · have belongs : keys.rank id = place + 1 := by
          refine rank_eq within (fun i inside before => ?_) fun i inside behind => ?_
          · by_cases same : i = place
            · subst same
              exact smaller
            · exact last.below i inside (by omega)
          · exact UInt32.lt_asymm (last.above i inside behind)
        rw [if_pos smaller, belongs]
      · have belongs : keys.rank id = place := by
          refine rank_eq (by omega) last.below fun i inside behind => ?_
          by_cases same : i = place
          · subst same
            exact smaller
          · exact UInt32.lt_asymm (last.above i inside (by omega))
        rw [if_neg smaller, belongs]

end Search

end KeySet

namespace Snapshot

theorem keys_insert (view : Snapshot) (entry : Entry) : (view.insert entry).keys = view.keys.insert entry := by
  unfold insert
  split <;> rfl

/-- Wherever a key is inserted, the position of the active one goes along with it. -/
theorem activeEntry_insert (view : Snapshot) (entry : Entry) : (view.insert entry).activeEntry = view.activeEntry := by
  have bound := view.active_lt
  by_cases shifted : view.keys.rank entry.id ≤ view.active
  · simp only [activeEntry, insert, if_pos shifted, List.get_eq_getElem, KeySet.entries_insert]
    rw [List.getElem_insertIdx_of_gt (by omega)]
    rfl
  · simp only [activeEntry, insert, if_neg shifted, List.get_eq_getElem, KeySet.entries_insert]
    rw [List.getElem_insertIdx_of_lt (by omega)]

end Snapshot

namespace KeySet

/-- Keys are a set in the order of their ids. It is made of entries exactly if no two of them share an id, however
entries of one id are left standing when they are sorted, and otherwise the smallest id that is shared is told. In such
a set every id is found at its own position, by going through the keys as well as by halving. A new key goes where it
belongs and moves nothing past anything else, the active key stays active, and the largest id is the one told. -/
theorem ordered_by_id :
    (∀ entries : List Entry,
      (entries.Pairwise (·.id ≠ ·.id) ↔ ∃ keys, ofEntries entries = .ok keys) ∧
      (∀ keys, ofEntries entries = .ok keys → keys.entries.Perm entries ∧ keys.entries.Pairwise (·.id < ·.id)) ∧
      (∀ id, ofEntries entries = .error id ↔
        2 ≤ (entries.map Entry.id).count id ∧ ∀ other, 2 ≤ (entries.map Entry.id).count other → id ≤ other) ∧
      ∀ sorted : List Entry, sorted.Perm entries → sorted.Pairwise (·.id ≤ ·.id) →
        ofEntries entries =
          match repeated? sorted with
          | some id => .error id
          | none => .ok ⟨sorted⟩) ∧
    ∀ keys : KeySet, keys.entries.Pairwise (·.id < ·.id) →
      (∀ id i, keys.find? id = some i ↔ keys.entries[i]?.map Entry.id = some id) ∧
      (∀ id, keys.search id =
        match keys.find? id with
        | some position => .ok position
        | none => .error (keys.rank id)) ∧
      (∀ entry : Entry, entry.id ∉ keys.ids →
        (keys.insert entry).entries.Pairwise (·.id < ·.id) ∧
        (keys.insert entry).entries.Perm (entry :: keys.entries) ∧
        (keys.insert entry).entries[keys.rank entry.id]? = some entry ∧
        (keys.insert entry).entries.eraseIdx (keys.rank entry.id) = keys.entries ∧
        ∀ view : Snapshot, view.keys = keys →
          (view.insert entry).keys = keys.insert entry ∧ (view.insert entry).activeEntry = view.activeEntry ∧
            (view.insert entry).activeId = view.activeId) ∧
      (keys.entries = [] → keys.maxId = 0) ∧
      (keys.entries ≠ [] → keys.maxId ∈ keys.ids) ∧
      ∀ id ∈ keys.ids, id ≤ keys.maxId := by
  refine ⟨fun entries => ⟨pairwise_ne_iff, ?_, fun id => ofEntries_eq_error_iff, fun sorted => ofEntries_of_sorted⟩, ?_⟩
  · exact fun keys made => ofEntries_eq_ok_iff.mp made
  · intro keys ascending
    refine ⟨fun id i => find?_eq_some_iff ascending, search_eq ascending, ?_, ?_, maxId_mem, ?_⟩
    · intro entry new
      refine ⟨Ascending.insert ascending new, perm_insert keys entry, getElem?_insert_rank keys entry, ?_, ?_⟩
      · rw [entries_insert, List.eraseIdx_insertIdx_self]
      · rintro view rfl
        have same := view.activeEntry_insert entry
        exact ⟨view.keys_insert entry, same, congrArg Entry.id same⟩
    · intro empty
      rw [maxId, empty]
      rfl
    · intro id member
      obtain ⟨entry, inside, rfl⟩ := List.mem_map.mp member
      exact le_maxId ascending inside

/-- Of ids with gaps, one more goes to the position of the active key. -/
theorem ordered_by_id_sparse :
    let keys : KeySet := ⟨[⟨2, [1]⟩, ⟨5, [2]⟩, ⟨9, [3]⟩]⟩
    let view : Snapshot := ⟨keys, 1, by decide⟩
    ofEntries [⟨9, [3]⟩, ⟨2, [1]⟩, ⟨5, [2]⟩] = .ok keys ∧
      ofEntries [⟨8, [1]⟩, ⟨3, [2]⟩, ⟨8, [3]⟩, ⟨3, [4]⟩] = .error 3 ∧
      keys.entries.Pairwise (·.id < ·.id) ∧ keys.search 9 = .ok 2 ∧ keys.search 4 = .error 1 ∧
      4 ∉ keys.ids ∧ (view.insert ⟨4, [7]⟩).keys.entries[1]? = some ⟨4, [7]⟩ ∧ (view.insert ⟨4, [7]⟩).activeId = 5 ∧
      keys.maxId ∈ keys.ids := by
  intro keys view
  obtain ⟨making, holding⟩ := ordered_by_id
  have ascending : keys.entries.Pairwise (·.id < ·.id) := by decide
  have new : (4 : KeyId) ∉ keys.ids := by decide
  obtain ⟨-, searching, inserting, -, largest, -⟩ := holding keys ascending
  obtain ⟨-, -, placed, -, viewed⟩ := inserting ⟨4, [7]⟩ new
  obtain ⟨sameKeys, -, sameActive⟩ := viewed view rfl
  refine ⟨?_, ?_, ascending, searching 9, searching 4, new, ?_, sameActive, largest (by decide)⟩
  · exact (making _).2.2.2 keys.entries (by decide) (by decide)
  · exact (making _).2.2.2 [⟨3, [2]⟩, ⟨3, [4]⟩, ⟨8, [1]⟩, ⟨8, [3]⟩] (by decide) (by decide)
  · rw [sameKeys]
    exact placed

end KeySet

end Keyring
