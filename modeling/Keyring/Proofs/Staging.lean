import Keyring.Proofs.Failure

namespace Keyring

open Keyring.Action

namespace Tree

/-- The tree without what is at a place. -/
def remove (tree : Tree) (spot : Spot) : Tree :=
  { tree with nodes := tree.nodes.filter (·.1 ≠ spot) }

/-- Moves a file from a place to a path. -/
def move (tree : Tree) (spot : Spot) (path : String) (fresh : Bool) : Except IoFailure Tree :=
  match tree.find? spot with
  | some (.file content _) => (tree.remove spot).place path content fresh
  | some .folder | none => .error .notFound

section Remove

variable {tree : Tree} {spot : Spot}

theorem ne_of_lookup_eq_none (absent : tree.nodes.lookup spot = none) : ∀ entry ∈ tree.nodes, entry.1 ≠ spot := by
  rintro entry member rfl
  simpa using List.lookup_eq_none_iff.mp absent entry member

theorem remove_put (node : Node) : (tree.put spot node).remove spot = tree.remove spot := by
  have replaced : ∀ nodes : List (Spot × Node),
      (nodes.map fun entry => if entry.1 = spot then (spot, node) else entry).filter (·.1 ≠ spot) =
        nodes.filter (·.1 ≠ spot) := by
    intro nodes
    induction nodes with
    | nil => rfl
    | cons entry rest ih =>
      by_cases here : entry.1 = spot
      · simpa [here] using ih
      · simpa [here] using ih
  unfold put
  split
  · simp only [remove, replaced]
  · simp [remove, List.filter_append]

/-- Where nothing is, nothing is removed. -/
theorem remove_of_free (free : tree.find? spot = none) : tree.remove spot = tree := by
  have absent : tree.nodes.lookup spot = none := by
    unfold find? at free
    split at free
    · cases free
    · exact free
  have all : tree.nodes.filter (·.1 ≠ spot) = tree.nodes :=
    List.filter_eq_self.mpr fun entry member => by simpa using ne_of_lookup_eq_none absent entry member
  rw [remove, all]

theorem put_put (node other : Node) : (tree.put spot node).put spot other = tree.put spot other := by
  cases found : tree.nodes.lookup spot with
  | some old =>
    simp only [put, found, Option.isSome_some, if_true, lookup_replaced_self, Option.map_some, List.map_map]
    congr 1
    refine List.map_congr_left fun entry _ => ?_
    by_cases here : entry.1 = spot <;> simp [here]
  | none =>
    have kept : (tree.nodes.map fun entry => if entry.1 = spot then (spot, other) else entry) = tree.nodes := by
      refine (List.map_congr_left fun entry member => ?_).trans (List.map_id _)
      rw [if_neg (ne_of_lookup_eq_none found entry member), id]
    simp [put, found, List.lookup_append, kept]

theorem below_of_free (free : tree.find? spot = none) : spot ≠ [] := by
  rintro rfl
  cases free

/-- A file that was put where nothing was is moved as if it had never stood there. -/
theorem move_put (free : tree.find? spot = none) (path : String) (content : Bytes) (fresh : Bool) :
    (tree.put spot (.file content .ownerOnly)).move spot path fresh = tree.place path content fresh := by
  rw [move, find?_put_self tree (below_of_free free)]
  dsimp only
  rw [remove_put, remove_of_free free]

/-- Nothing is put afresh where something is. -/
theorem place_of_has {path : String} (taken : tree.has path = true) (content : Bytes) :
    ∃ cause, tree.place path content true = .error cause := by
  cases placed : tree.place path content true with
  | error cause => exact ⟨cause, rfl⟩
  | ok next =>
    obtain ⟨ended, places, free, -⟩ := place_eq_ok_iff.mp placed
    rw [places.has_eq_false (free rfl)] at taken
    cases taken

theorem move_of_has {path : String} (taken : (tree.remove spot).has path = true) :
    ∃ cause, tree.move spot path true = .error cause := by
  unfold move
  split
  · exact place_of_has taken _
  · exact ⟨_, rfl⟩
  · exact ⟨_, rfl⟩

end Remove

end Tree

/-- The same action, with the state tidied up if it fails. -/
def Action.onFailure {σ ε α : Type} (tidy : σ → σ) (action : ActionOn σ ε α) : ActionOn σ ε α := fun state =>
  match action state with
  | .ok value later => .ok value later
  | .error failure later => .error failure (tidy later)

namespace Session

/-- Fills a new file and moves it to a path. In between, others have had their way with the tree. -/
def stage (temp : Spot) (others : Tree → Tree) (path : String) (ring : Ring) (fresh : Bool) : DeskAction Nat := do
  let delivery ← Desk.onRing (ring.write .boundless)
  modify fun desk => { desk with tree := desk.tree.put temp (.file delivery.received .ownerOnly) }
  let written ← Action.ofExcept (delivery.written.mapError fun cause => .ring (.io cause))
  modify fun desk => { desk with tree := others desk.tree }
  let desk ← get
  let tree ← Desk.ofFile path (desk.tree.move temp path fresh)
  modify fun desk => { desk with tree := tree }
  return written

/-- Saving with the new file on view. It is made empty at a place that chance has picked, and removed if it
cannot be filled or cannot be moved. -/
def saveStaged (temp : Spot) (others : Tree → Tree) (path : String) (ring : Ring) (fresh : Bool) :
    DeskAction Unit := do
  let folder := Path.folder path
  let desk ← get
  Desk.ofFile folder (desk.tree.checkFolder folder)
  modify fun desk => { desk with tree := desk.tree.put temp (.file [] .ownerOnly) }
  let written ← Action.onFailure (fun desk => { desk with tree := desk.tree.remove temp })
    (stage temp others path ring fresh)
  Desk.log (.ofSession "saved keyring" [("path", path), ("bytes", toString written)])
  Desk.note s!"Wrote {written} bytes to {Quoted.ofString (Path.displayName path)}\n"

section Staged

variable {temp : Spot} {others : Tree → Tree} {path : String} {ring : Ring} {fresh : Bool} {desk : Desk}

section Refused

variable {cause : IoFailure} (refused : desk.tree.checkFolder (Path.folder path) = .error cause)
include refused

theorem saveStaged_of_refused :
    saveStaged temp others path ring fresh desk = .error (.error (.file (Path.folder path) cause)) desk := by
  unfold saveStaged
  rw [bind_get, refused]
  rfl

theorem save_of_refused : save path ring fresh desk = .error (.error (.file (Path.folder path) cause)) desk := by
  unfold save
  rw [bind_get, refused]
  rfl

end Refused

section Unwritten

variable {failure : Failure CommandError} {world : World}
  (checked : desk.tree.checkFolder (Path.folder path) = .ok ())
  (stopped : mapCause CommandError.ring (ring.write .boundless) desk.world = .error failure world)
include checked stopped

/-- Where a keyring cannot be written, the new file is removed. -/
theorem saveStaged_of_unwritten (free : desk.tree.find? temp = none) :
    saveStaged temp others path ring fresh desk = .error failure { desk with world := world } := by
  let made : Desk := { desk with tree := desk.tree.put temp (.file [] .ownerOnly) }
  have written : Desk.onRing (ring.write .boundless) made = .error failure { made with world := world } :=
    Desk.onWorld_failed.mpr ⟨world, stopped, rfl⟩
  have staged : Action.onFailure (fun desk => { desk with tree := desk.tree.remove temp })
      (stage temp others path ring fresh) made = .error failure { desk with world := world } := by
    unfold Action.onFailure stage
    rw [bind_of_error written]
    dsimp only [made]
    rw [Tree.remove_put, Tree.remove_of_free free]
  unfold saveStaged
  rw [bind_get, bind_of_ok (Desk.ofFile_eq_ok.mpr ⟨checked, rfl⟩)]
  exact bind_of_error staged _

theorem save_of_unwritten : save path ring fresh desk = .error failure { desk with world := world } := by
  unfold save
  rw [bind_get, bind_of_ok (Desk.ofFile_eq_ok.mpr ⟨checked, rfl⟩)]
  exact bind_of_error (Desk.onWorld_failed.mpr ⟨world, stopped, rfl⟩) _

end Unwritten

section Written

variable {data : Bytes} {world : World}
  (wrote : ring.write .boundless desk.world = .ok ⟨data, .ok data.length⟩ world)
include wrote

theorem stage_of_written :
    stage temp others path ring fresh desk =
      match (others (desk.tree.put temp (.file data .ownerOnly))).move temp path fresh with
      | .error cause => .error (.error (.file path cause))
          { desk with tree := others (desk.tree.put temp (.file data .ownerOnly)), world := world }
      | .ok next => .ok data.length { desk with tree := next, world := world } := by
  let filled : Desk := { desk with tree := others (desk.tree.put temp (.file data .ownerOnly)), world := world }
  have moving : stage temp others path ring fresh desk =
      (do
        let tree ← Desk.ofFile path (filled.tree.move temp path fresh)
        modify fun desk => { desk with tree := tree }
        return data.length : DeskAction Nat) filled := by
    unfold stage
    rw [bind_of_ok (Desk.onRing_done.mpr ⟨world, wrote, rfl⟩)]
    rfl
  rw [moving]
  cases filled.tree.move temp path fresh with
  | error cause => rfl
  | ok next => rfl

variable (checked : desk.tree.checkFolder (Path.folder path) = .ok ())
include checked

/-- A keyring that has been written is moved to its path, or the new file is removed. -/
theorem saveStaged_of_written :
    saveStaged temp others path ring fresh desk =
      match (others (desk.tree.put temp (.file data .ownerOnly))).move temp path fresh with
      | .error cause => .error (.error (.file path cause))
          { desk with tree := (others (desk.tree.put temp (.file data .ownerOnly))).remove temp, world := world }
      | .ok next =>
        (do
          Desk.log (.ofSession "saved keyring" [("path", path), ("bytes", toString data.length)])
          Desk.note s!"Wrote {data.length} bytes to {Quoted.ofString (Path.displayName path)}\n" : DeskAction Unit)
          { desk with tree := next, world := world } := by
  let made : Desk := { desk with tree := desk.tree.put temp (.file [] .ownerOnly) }
  have staged : stage temp others path ring fresh made = _ := stage_of_written wrote
  dsimp only [made] at staged
  rw [Tree.put_put] at staged
  have saving : saveStaged temp others path ring fresh desk =
      (do
        let written ← Action.onFailure (fun desk => { desk with tree := desk.tree.remove temp })
          (stage temp others path ring fresh)
        Desk.log (.ofSession "saved keyring" [("path", path), ("bytes", toString written)])
        Desk.note s!"Wrote {written} bytes to {Quoted.ofString (Path.displayName path)}\n" : DeskAction Unit) made := by
    unfold saveStaged
    rw [bind_get, bind_of_ok (Desk.ofFile_eq_ok.mpr ⟨checked, rfl⟩)]
    rfl
  rw [saving]
  cases moved : (others (desk.tree.put temp (.file data .ownerOnly))).move temp path fresh with
  | error cause =>
    rw [moved] at staged
    refine bind_of_error ?_ _
    rw [Action.onFailure, staged]
  | ok next =>
    rw [moved] at staged
    refine bind_of_ok ?_ _
    rw [Action.onFailure, staged]

theorem save_of_written :
    save path ring fresh desk =
      match desk.tree.place path data fresh with
      | .error cause => .error (.error (.file path cause)) { desk with world := world }
      | .ok next =>
        (do
          Desk.log (.ofSession "saved keyring" [("path", path), ("bytes", toString data.length)])
          Desk.note s!"Wrote {data.length} bytes to {Quoted.ofString (Path.displayName path)}\n")
          { desk with tree := next, world := world } := by
  unfold save
  rw [bind_get, bind_of_ok (Desk.ofFile_eq_ok.mpr ⟨checked, rfl⟩), bind_of_ok (Desk.onRing_done.mpr ⟨world, wrote, rfl⟩),
    bind_of_ok (ofExcept_eq_ok.mpr ⟨Outcome.mapError_eq_ok.mpr rfl, rfl⟩)]
  cases desk.tree.place path data fresh with
  | error cause => rfl
  | ok next => rfl

end Written

/-- What there is to saving: the folder is refused, or the keyring cannot be written, or it is written. -/
theorem saving_cases (path : String) (ring : Ring) (desk : Desk) :
    (∃ cause, desk.tree.checkFolder (Path.folder path) = .error cause) ∨
      desk.tree.checkFolder (Path.folder path) = .ok () ∧
        ((∃ failure world,
            mapCause CommandError.ring (ring.write .boundless) desk.world = .error failure world) ∨
          ∃ data world, (∃ ended, ring.encode desk.world = .ok data ended) ∧
            ring.write .boundless desk.world = .ok ⟨data, .ok data.length⟩ world) := by
  cases checked : desk.tree.checkFolder (Path.folder path) with
  | error cause => exact .inl ⟨cause, rfl⟩
  | ok _ =>
    refine .inr ⟨rfl, ?_⟩
    cases wrote : ring.write .boundless desk.world with
    | error failure world =>
      left
      unfold mapCause
      rw [wrote]
      cases failure <;> exact ⟨_, _, rfl⟩
    | ok delivery world =>
      obtain ⟨data, encoded, rfl⟩ := (Ring.write_eq_ok_iff desk.world).mp ⟨world, wrote⟩
      exact .inr ⟨data, world, encoded, rfl⟩

/-- Left alone, saving step by step comes to the same as saving at once, and nothing is left of the new file. -/
theorem saveStaged_eq (free : desk.tree.find? temp = none) :
    saveStaged temp id path ring fresh desk = save path ring fresh desk := by
  rcases saving_cases path ring desk with ⟨cause, refused⟩ | ⟨checked, ⟨failure, world, stopped⟩ | ⟨data, world, -, wrote⟩⟩
  · rw [saveStaged_of_refused refused, save_of_refused refused]
  · rw [saveStaged_of_unwritten checked stopped free, save_of_unwritten checked stopped]
  · rw [saveStaged_of_written wrote checked, save_of_written wrote checked, id, Tree.move_put free, Tree.remove_put,
      Tree.remove_of_free free]

/-- If others come first and put something where the path leads, a fresh file is not moved there. What they left
is left as it is. -/
theorem saveStaged_forestalled (free : desk.tree.find? temp = none)
    (taken : ∀ content, ((others (desk.tree.put temp (.file content .ownerOnly))).remove temp).has path = true) :
    ∃ failure later, saveStaged temp others path ring true desk = .error failure later ∧
      (later.tree = desk.tree ∨
        ∃ content, later.tree = (others (desk.tree.put temp (.file content .ownerOnly))).remove temp) := by
  rcases saving_cases path ring desk with ⟨cause, refused⟩ | ⟨checked, ⟨failure, world, stopped⟩ | ⟨data, world, -, wrote⟩⟩
  · exact ⟨_, _, saveStaged_of_refused refused, .inl rfl⟩
  · exact ⟨_, _, saveStaged_of_unwritten checked stopped free, .inl rfl⟩
  · obtain ⟨cause, stays⟩ := Tree.move_of_has (taken data)
    rw [saveStaged_of_written wrote checked, stays]
    exact ⟨_, _, rfl, .inr ⟨data, rfl⟩⟩

/-- Saving afresh does not replace anything, whenever it was put there. -/
theorem save_of_has (taken : desk.tree.has path = true) :
    ∃ failure later, save path ring true desk = .error failure later ∧ later.tree = desk.tree := by
  rcases saving_cases path ring desk with ⟨cause, refused⟩ | ⟨checked, ⟨failure, world, stopped⟩ | ⟨data, world, -, wrote⟩⟩
  · exact ⟨_, _, save_of_refused refused, rfl⟩
  · exact ⟨_, _, save_of_unwritten checked stopped, rfl⟩
  · obtain ⟨cause, stays⟩ := Tree.place_of_has taken data
    rw [save_of_written wrote checked, stays]
    exact ⟨_, _, rfl, rfl⟩

/-- However saving ends, the tree is as it was, or a whole keyring has been put where the path leads. -/
theorem save_tree (path : String) (ring : Ring) (fresh : Bool) (desk : Desk) :
    (left (save path ring fresh desk)).tree = desk.tree ∨
      ∃ data ended, ring.encode desk.world = .ok data ended ∧
        desk.tree.place path data fresh = .ok (left (save path ring fresh desk)).tree := by
  rcases saving_cases path ring desk with
    ⟨cause, refused⟩ | ⟨checked, ⟨failure, world, stopped⟩ | ⟨data, world, ⟨ended, encoded⟩, wrote⟩⟩
  · rw [save_of_refused refused]
    exact .inl rfl
  · rw [save_of_unwritten checked stopped]
    exact .inl rfl
  · rw [save_of_written wrote checked]
    cases placed : desk.tree.place path data fresh with
    | error cause => exact .inl rfl
    | ok next =>
      have telling : Orderly (Desk.Since { desk with tree := next, world := world }) (fun _ => True)
          (do
            Desk.log (.ofSession "saved keyring" [("path", path), ("bytes", toString data.length)])
            Desk.note s!"Wrote {data.length} bytes to {Quoted.ofString (Path.displayName path)}\n" : DeskAction Unit) :=
        .bind (Desk.orderly_log _) fun _ => Desk.orderly_note _
      have since := telling.keeps _ (Desk.Since.refl _)
      exact .inr ⟨data, ended, encoded, placed.trans (congrArg Except.ok since.tree.symm)⟩

end Staged

end Session

end Keyring
