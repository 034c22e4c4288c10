import Keyring.Command.Tree
import Keyring.Proofs.Action
import Mathlib.Data.List.Basic

namespace Keyring.Tree

section Put

variable {spot other : Spot} {node : Node}

theorem lookup_replaced_self (nodes : List (Spot × Node)) :
    (nodes.map fun entry => if entry.1 = spot then (spot, node) else entry).lookup spot =
      (nodes.lookup spot).map fun _ => node := by
  induction nodes with
  | nil => rfl
  | cons entry rest ih =>
    obtain ⟨place, old⟩ := entry
    by_cases here : place = spot
    · simp [here]
    · have elsewhere : (spot == place) = false := by simpa using Ne.symm here
      simp [List.lookup_cons, here, elsewhere, ih]

theorem lookup_replaced_ne (apart : other ≠ spot) (nodes : List (Spot × Node)) :
    (nodes.map fun entry => if entry.1 = spot then (spot, node) else entry).lookup other = nodes.lookup other := by
  induction nodes with
  | nil => rfl
  | cons entry rest ih =>
    obtain ⟨place, old⟩ := entry
    by_cases here : place = spot
    · have elsewhere : (other == spot) = false := by simpa using apart
      simp [List.lookup_cons, here, elsewhere, ih]
    · simp [List.lookup_cons, here, ih]

theorem find?_put_self (tree : Tree) (below : spot ≠ []) : (tree.put spot node).find? spot = some node := by
  unfold put find?
  rw [if_neg below]
  by_cases present : (tree.nodes.lookup spot).isSome
  · obtain ⟨old, found⟩ := Option.isSome_iff_exists.mp present
    simp [lookup_replaced_self, found]
  · have absent : tree.nodes.lookup spot = none := Option.not_isSome_iff_eq_none.mp present
    simp [absent, List.lookup_append]

theorem find?_put_ne (tree : Tree) (apart : other ≠ spot) : (tree.put spot node).find? other = tree.find? other := by
  unfold put find?
  by_cases present : (tree.nodes.lookup spot).isSome
  · simp [present, lookup_replaced_ne apart]
  · have elsewhere : (other == spot) = false := by simpa using apart
    simp [present, List.lookup_append, List.lookup_cons, elsewhere]

@[simp]
theorem home_put (tree : Tree) (spot : Spot) (node : Node) : (tree.put spot node).home = tree.home := by
  unfold put
  split <;> rfl

@[simp]
theorem start_put (tree : Tree) (spot : Spot) (node : Node) (path : String) :
    (tree.put spot node).start path = tree.start path := by
  simp [start]

@[simp]
theorem newPath_put (tree : Tree) (spot : Spot) (node : Node) (folder : String) :
    (tree.put spot node).newPath folder = tree.newPath folder := by
  simp [newPath]

/-- A node where no folder was is no obstacle to a walk that was free before: all that such a walk passes
through are folders. -/
theorem walk_put {tree : Tree} (notFolder : tree.find? spot ≠ some .folder) {begun ended : Spot} {pieces : List String}
    (walked : tree.walk begun pieces = .ok ended) : (tree.put spot node).walk begun pieces = .ok ended := by
  induction pieces generalizing begun with
  | nil => exact walked
  | cons piece rest ih =>
    unfold walk at walked ⊢
    cases found : tree.find? begun with
    | none => simp [found] at walked
    | some there =>
      cases there with
      | file content mode => simp [found] at walked
      | folder =>
        -- The walk goes on from a folder, which is not what is at `spot`.
        have apart : begun ≠ spot := by
          rintro rfl
          exact notFolder found
        rw [find?_put_ne tree apart, found]
        simp only [found] at walked ⊢
        by_cases idle : Path.isIdle piece = true
        · rw [if_pos idle] at walked ⊢
          exact ih walked
        · rw [if_neg idle] at walked ⊢
          by_cases up : piece = ".."
          · rw [if_pos up] at walked ⊢
            exact ih walked
          · rw [if_neg up] at walked ⊢
            by_cases long : maxName < piece.utf8ByteSize
            · rw [if_pos long] at walked
              cases walked
            · rw [if_neg long] at walked ⊢
              exact ih walked

end Put

/-- A path at whose end a file can stand. -/
structure Places (tree : Tree) (path : String) (spot : Spot) : Prop where
  valid : checkPath path = .ok ()
  /-- Only a folder's path can end in a slash. -/
  named : ((Path.pieces path).reverse.dropWhile (· = "")).reverse = Path.pieces path
  leads : tree.spot path = .ok spot
  notFolder : tree.find? spot ≠ some .folder

theorem place_eq_ok_iff {tree next : Tree} {path : String} {content : Bytes} {fresh : Bool} :
    tree.place path content fresh = .ok next ↔
      ∃ spot, tree.Places path spot ∧ (fresh = true → tree.find? spot = none) ∧
        next = tree.put spot (.file content .ownerOnly) := by
  unfold place
  simp only [Outcome.bind_eq_ok]
  constructor
  · rintro ⟨_, valid, spot, leads, placed⟩
    split at placed
    · cases placed
    next free =>
      split at placed
      · cases placed
      next named =>
        split at placed
        · cases placed
        next notFolder =>
          have whole := Decidable.not_not.mp named
          rw [whole] at leads
          refine ⟨spot, ⟨valid, whole, leads, notFolder⟩, ?_, (Outcome.pure_eq_ok.mp placed).symm⟩
          intro fresh
          simpa [fresh] using free
  · rintro ⟨spot, places, free, rfl⟩
    refine ⟨(), places.valid, spot, ?_, ?_⟩
    · rw [places.named]
      exact places.leads
    · have untaken : ¬ (fresh = true ∧ (tree.find? spot).isSome = true) := by
        rintro ⟨fresh, taken⟩
        simp [free fresh] at taken
      rw [if_neg untaken, if_neg (not_not_intro places.named), if_neg places.notFolder]
      rfl

theorem checkFolder_eq_ok_iff {tree : Tree} {folder : String} :
    tree.checkFolder folder = .ok () ↔
      checkPath (tree.newPath folder) = .ok () ∧ ∃ spot, tree.spot (tree.newPath folder) = .ok spot := by
  unfold checkFolder
  simp only [Outcome.bind_eq_ok]
  constructor
  · rintro ⟨_, valid, spot, leads, _⟩
    exact ⟨valid, spot, leads⟩
  · rintro ⟨valid, spot, leads⟩
    exact ⟨(), valid, spot, leads, rfl⟩

namespace Places

variable {tree : Tree} {path : String} {spot : Spot} {content : Bytes} {mode : Mode}

theorem below (places : tree.Places path spot) : spot ≠ [] := by
  rintro rfl
  exact places.notFolder rfl

theorem node_of_find? (places : tree.Places path spot) {node : Node} (found : tree.find? spot = some node) :
    tree.node path = .ok node := by
  unfold Tree.node
  simp only [Outcome.bind_eq_ok]
  refine ⟨(), places.valid, spot, places.leads, ?_⟩
  rw [found]

theorem has_eq_false (places : tree.Places path spot) (free : tree.find? spot = none) : tree.has path = false := by
  have missing : tree.node path = .error .notFound := by
    simp only [Tree.node, places.valid, places.leads, bind, Except.bind, free]
  rw [has, missing]
  rfl

theorem spot_put (places : tree.Places path spot) {other : String} {ended : Spot}
    (leads : tree.spot other = .ok ended) :
    (tree.put spot (.file content mode)).spot other = .ok ended := by
  have walked : (tree.put spot (.file content mode)).walk (tree.start other) (Path.pieces other) = .ok ended :=
    walk_put places.notFolder leads
  rwa [← start_put tree spot (.file content mode)] at walked

/-- A file that has been put where a path leads can be put there again. -/
theorem put (places : tree.Places path spot) : (tree.put spot (.file content mode)).Places path spot := by
  refine ⟨places.valid, places.named, places.spot_put places.leads, ?_⟩
  rw [find?_put_self tree places.below]
  simp

theorem checkFolder_put (places : tree.Places path spot) {folder : String}
    (checked : tree.checkFolder folder = .ok ()) :
    (tree.put spot (.file content mode)).checkFolder folder = .ok () := by
  obtain ⟨valid, ended, leads⟩ := checkFolder_eq_ok_iff.mp checked
  refine checkFolder_eq_ok_iff.mpr ⟨?_, ended, ?_⟩
  · rw [newPath_put]
    exact valid
  · rw [newPath_put]
    exact places.spot_put leads

end Places

end Keyring.Tree
