import Keyring.Proofs.Failure
import Keyring.Proofs.Resemblance

namespace Keyring

open Keyring.Action
open Outcome (Agree)

namespace Passphrases

/-- Passphrases of one kind, of which the same are missing, empty, and equal to each other. -/
structure Alike (passphrases other : Passphrases) : Prop where
  interactive : passphrases.isInteractive = other.isInteractive
  empty : ∀ count, Agree (fun text text' => text.isEmpty = text'.isEmpty) (passphrases.entry count) (other.entry count)
  equal : ∀ first second, passphrases.entry first = passphrases.entry second ↔ other.entry first = other.entry second

theorem Alike.next {passphrases other : Passphrases} (alike : passphrases.Alike other) :
    passphrases.next.2.Alike other.next.2 where
  interactive := by rw [isInteractive_next, isInteractive_next, alike.interactive]
  empty := fun count => alike.empty (count + 1)
  equal := fun first second => alike.equal (first + 1) (second + 1)

end Passphrases

/-- Choices of a key that differ in nothing but its bytes. -/
structure KeyChoice.Alike (choice other : KeyChoice) : Prop where
  text : Option.Rel (fun text text' => SameLength (textBytes text) (textBytes text')) choice.text other.text
  random : choice.random = other.random

theorem Derivation.meets_newAccessKey {ε : Type} {coupled : World → World → Prop} (coupling : World.Coupling coupled)
    (passphrase passphrase' : Bytes) :
    Meets coupled (fun made other => SameLength made.1 other.1 ∧ SameLength made.2 other.2 ∧ made.2.length ≤ max24)
      (newAccessKey passphrase : Action ε (Bytes × Bytes)) (newAccessKey passphrase' : Action ε (Bytes × Bytes)) := by
  have meets : Meets coupled (fun made other => SameLength made.1 other.1 ∧ SameLength made.2 other.2)
      (newAccessKey passphrase : Action ε (Bytes × Bytes)) (newAccessKey passphrase' : Action ε (Bytes × Bytes)) := by
    refine .bind (.draw coupling .salt saltLength) fun salt salt' salts => .pure ⟨?_, salts⟩
    rw [SameLength, length_extracted, length_extracted]
  exact meets.imp fun salted _ both => ⟨both.1, both.2, salt_fits_of_newAccessKey salted⟩

/-- Nodes of one kind and mode; the contents of files resemble each other. -/
inductive Node.Twin (dataKey dataKey' : Bytes) : Node → Node → Prop
  | file {content content' : Bytes} (mode : Mode) : Resembles dataKey dataKey' content content' →
    Twin dataKey dataKey' (.file content mode) (.file content' mode)
  | folder : Twin dataKey dataKey' .folder .folder

/-- Trees with twin nodes at all places, under the data keys that belong to the places. -/
structure Tree.Twin (dataKeys dataKeys' : Spot → Bytes) (tree twin : Tree) : Prop where
  home : tree.home = twin.home
  nodes : ∀ spot, Option.Rel (Node.Twin (dataKeys spot) (dataKeys' spot)) (tree.find? spot) (twin.find? spot)

namespace Tree

theorem Twin.refl (dataKeys : Spot → Bytes) (tree : Tree) : tree.Twin dataKeys dataKeys tree := by
  refine ⟨rfl, fun spot => ?_⟩
  cases tree.find? spot with
  | none => exact .none
  | some node =>
    cases node with
    | file content mode => exact .some (.file mode (.refl _ content))
    | folder => exact .some .folder

variable {dataKeys dataKeys' : Spot → Bytes} {tree twin : Tree}

section Paths

variable (trees : Twin dataKeys dataKeys' tree twin)
include trees

theorem Twin.walk (spot : Spot) (pieces : List String) : tree.walk spot pieces = twin.walk spot pieces := by
  induction pieces generalizing spot with
  | nil => rfl
  | cons piece rest ih =>
    have nodes := trees.nodes spot
    unfold Tree.walk
    generalize tree.find? spot = mine at nodes ⊢
    generalize twin.find? spot = yours at nodes ⊢
    cases nodes with
    | none => rfl
    | some related =>
      cases related with
      | file => rfl
      | folder => simp only [ih]

theorem Twin.start (path : String) : tree.start path = twin.start path := by
  rw [Tree.start, Tree.start, trees.home]

theorem Twin.spot (path : String) : tree.spot path = twin.spot path := by
  rw [Tree.spot, Tree.spot, trees.start, trees.walk]

theorem Twin.checkFolder (folder : String) : tree.checkFolder folder = twin.checkFolder folder := by
  rw [Tree.checkFolder, Tree.checkFolder, newPath, newPath, trees.home]
  simp only [trees.spot]

theorem Twin.isSome (spot : Spot) : (tree.find? spot).isSome = (twin.find? spot).isSome := by
  have nodes := trees.nodes spot
  generalize tree.find? spot = mine at nodes ⊢
  generalize twin.find? spot = yours at nodes ⊢
  cases nodes <;> rfl

/-- A path leads to twin nodes at one place, or to none for one cause. -/
theorem Twin.node (path : String) :
    Agree (fun node node' => ∃ spot, tree.spot path = .ok spot ∧ tree.find? spot = some node ∧
        Node.Twin (dataKeys spot) (dataKeys' spot) node node') (tree.node path) (twin.node path) := by
  rw [Tree.node, Tree.node, ← trees.spot]
  cases checkPath path with
  | error cause => exact .error cause
  | ok _ =>
    cases leads : tree.spot path with
    | error cause => exact .error cause
    | ok spot =>
      have nodes := trees.nodes spot
      dsimp only [Bind.bind, Except.bind]
      cases mine : tree.find? spot <;> cases yours : twin.find? spot <;> rw [mine, yours] at nodes <;> cases nodes
      case none.none => exact .error _
      case some.some related => exact .ok ⟨spot, rfl, mine, related⟩

theorem Twin.has (path : String) : tree.has path = twin.has path := by
  have nodes := trees.node path
  rw [Tree.has, Tree.has]
  generalize tree.node path = mine at nodes ⊢
  generalize twin.node path = yours at nodes ⊢
  cases nodes <;> rfl

/-- A file is placed in both trees at one place, or in neither for one cause. -/
theorem Twin.place (path : String) (content content' : Bytes) (fresh : Bool) :
    Agree (fun next next' => ∃ spot, tree.Places path spot ∧ (fresh = true → tree.find? spot = none) ∧
        next = tree.put spot (.file content .ownerOnly) ∧ next' = twin.put spot (.file content' .ownerOnly))
      (tree.place path content fresh) (twin.place path content' fresh) := by
  have agree : Agree (fun _ _ => True) (tree.place path content fresh) (twin.place path content' fresh) := by
    unfold Tree.place
    simp only [← trees.start, ← trees.walk]
    cases checkPath path with
    | error cause => exact .error cause
    | ok _ =>
      cases tree.walk (tree.start path) ((Path.pieces path).reverse.dropWhile (· = "")).reverse with
      | error cause => exact .error cause
      | ok spot =>
        have nodes := trees.nodes spot
        have folder : tree.find? spot = some .folder ↔ twin.find? spot = some .folder := by
          generalize tree.find? spot = mine at nodes ⊢
          generalize twin.find? spot = yours at nodes ⊢
          cases nodes with
          | none => simp
          | some related => cases related <;> simp
        exact .unless (by rw [trees.isSome]) (.unless Iff.rfl (.unless folder (.ok trivial)))
  cases placed : tree.place path content fresh <;> cases placedToo : twin.place path content' fresh <;>
    rw [placed, placedToo] at agree <;> cases agree
  case error.error cause => exact .error cause
  case ok.ok next next' _ =>
    obtain ⟨spot, places, free, rfl⟩ := place_eq_ok_iff.mp placed
    obtain ⟨spot', placesToo, -, rfl⟩ := place_eq_ok_iff.mp placedToo
    have leads := placesToo.leads
    rw [← trees.spot, places.leads] at leads
    cases leads
    exact .ok ⟨spot, places, free, rfl, rfl⟩

end Paths

/-- Which data keys belong to a free place is of no account. -/
theorem Twin.update {spot : Spot} (trees : Twin dataKeys dataKeys' tree twin) (free : tree.find? spot = none)
    (dataKey dataKey' : Bytes) :
    Twin (Function.update dataKeys spot dataKey) (Function.update dataKeys' spot dataKey') tree twin := by
  refine ⟨trees.home, fun other => ?_⟩
  by_cases here : other = spot
  · subst here
    have freeToo := trees.isSome other
    rw [free] at freeToo ⊢
    rw [Option.not_isSome_iff_eq_none.mp (Bool.eq_false_iff.mp freeToo.symm)]
    exact .none
  · rw [Function.update_of_ne here, Function.update_of_ne here]
    exact trees.nodes other

/-- Twin trees stay so when contents that resemble each other are put at a place, whatever the data keys there were. -/
theorem Twin.put {spot : Spot} {dataKey dataKey' content content' : Bytes} (trees : Twin dataKeys dataKeys' tree twin)
    (below : spot ≠ []) (mode : Mode) (alike : Resembles dataKey dataKey' content content') :
    Twin (Function.update dataKeys spot dataKey) (Function.update dataKeys' spot dataKey')
      (tree.put spot (.file content mode)) (twin.put spot (.file content' mode)) := by
  refine ⟨by rw [home_put, home_put, trees.home], fun other => ?_⟩
  by_cases here : other = spot
  · subst here
    rw [find?_put_self _ below, find?_put_self _ below, Function.update_self, Function.update_self]
    exact .some (.file mode alike)
  · rw [find?_put_ne _ here, find?_put_ne _ here, Function.update_of_ne here, Function.update_of_ne here]
    exact trees.nodes other

end Tree

namespace Desk

/-- Desks over their trees that differ in nothing but what is secret or left to chance. -/
structure Beside (tree tree' : Tree) (desk twin : Desk) : Prop where
  tree : desk.tree = tree
  twinTree : twin.tree = tree'
  worlds : desk.world.Alongside twin.world
  passphrases : desk.passphrases.Alike twin.passphrases
  answerRoom : desk.answerRoom = twin.answerRoom
  noteRoom : desk.noteRoom = twin.noteRoom

section Steps

variable {α α' : Type} {rel : α → α' → Prop} {tree tree' : Tree} {desk twin : Desk}

theorem meets_onWorld {action : Action CommandError α} {other : Action CommandError α'}
    (meets : Meets World.Alongside rel action other) : Meets (Beside tree tree') rel (onWorld action) (onWorld other) := by
  intro desk twin beside
  have ends := meets desk.world twin.world beside.worlds
  unfold onWorld onPart
  cases ran : action desk.world <;> cases ranToo : other twin.world <;> rw [ran, ranToo] at ends <;> cases ends
  case ok.ok related worlds => exact .done related { beside with worlds := worlds }
  case error.error failure _ _ worlds => exact .failed failure { beside with worlds := worlds }

theorem meets_onRing {action : RingAction α} {other : RingAction α'} (meets : Meets World.Alongside rel action other) :
    Meets (Beside tree tree') rel (onRing action) (onRing other) :=
  meets_onWorld meets.mapCause

theorem meets_log (event : Event) : Meets (Beside tree tree') (fun _ _ => True) (log event) (log event) :=
  meets_onWorld (.log World.Alongside.coupling event)

theorem meets_print (text : String) : Meets (Beside tree tree') (fun _ _ => True) (print text) (print text) := by
  intro desk twin beside
  have sent : send desk.answerRoom (textBytes text) = send twin.answerRoom (textBytes text) := by rw [beside.answerRoom]
  have telling : ∀ desk : Desk, print text desk = Action.ofExcept (send desk.answerRoom (textBytes text)).2.2
      { desk with
        answerRoom := (send desk.answerRoom (textBytes text)).2.1
        world := { desk.world with
          trace := desk.world.trace.push (.printed (send desk.answerRoom (textBytes text)).1) } } := fun _ => rfl
  rw [telling, telling, sent]
  refine Meets.ofExcept (.refl _ fun _ => trivial) _ _ { beside with answerRoom := rfl, worlds := ?_ }
  exact World.Alongside.coupling.push beside.worlds _

theorem meets_note (text : String) : Meets (Beside tree tree') (fun _ _ => True) (note text) (note text) := by
  intro desk twin beside
  have sent : send desk.noteRoom (textBytes text) = send twin.noteRoom (textBytes text) := by rw [beside.noteRoom]
  rw [note_eq, note_eq, noted, noted, sent]
  refine Meets.ofExcept (.refl _ fun _ => trivial) _ _ { beside with noteRoom := rfl, worlds := ?_ }
  exact World.Alongside.coupling.push beside.worlds _

theorem Beside.asked (beside : Beside tree tree' desk twin) (prompt : String) :
    Beside tree tree' (asked prompt desk) (asked prompt twin) := by
  unfold Desk.asked
  rw [beside.passphrases.interactive]
  refine { beside with passphrases := beside.passphrases.next, worlds := ?_ }
  dsimp only
  split
  · exact World.Alongside.coupling.push beside.worlds _
  · exact beside.worlds

/-- Of two passphrases that are asked for, both are missing, or both are empty, or neither. -/
theorem Beside.ends_askPassphrase (beside : Beside tree tree' desk twin) (prompt : String) :
    Ends (fun later later' => Beside tree tree' later later' ∧
        later.passphrases = desk.passphrases.next.2 ∧ later'.passphrases = twin.passphrases.next.2)
      (fun text text' => desk.passphrases.next.1 = .ok text ∧ twin.passphrases.next.1 = .ok text' ∧
        text.isEmpty = text'.isEmpty)
      (askPassphrase prompt desk) (askPassphrase prompt twin) := by
  rw [askPassphrase_eq, askPassphrase_eq]
  have later := beside.asked prompt
  have answers : Agree (fun text text' => text.isEmpty = text'.isEmpty) desk.passphrases.next.1 twin.passphrases.next.1 :=
    beside.passphrases.empty 0
  generalize desk.passphrases.next.1 = mine at answers ⊢
  generalize twin.passphrases.next.1 = yours at answers ⊢
  cases answers with
  | ok same => exact .done ⟨rfl, rfl, same⟩ ⟨later, rfl, rfl⟩
  | error cause => exact .failed (.error cause) ⟨later, rfl, rfl⟩

theorem meets_newPassphrase (emptyOk : Bool) :
    Meets (Beside tree tree') (fun _ _ => True) (newPassphrase emptyOk) (newPassphrase emptyOk) := by
  intro desk twin beside
  unfold newPassphrase
  refine (beside.ends_askPassphrase _).bind (fun _ _ => And.left) fun text text' later later' _ _ given besides => ?_
  obtain ⟨answer, answerToo, empty⟩ := given
  obtain ⟨besides, left, leftToo⟩ := besides
  refine .guard besides (by rw [empty]) rfl fun _ => ?_
  dsimp only
  rw [bind_get, bind_get, ← besides.passphrases.interactive]
  split
  · refine (besides.ends_askPassphrase _).bind (fun _ _ => And.left) fun again again' _ _ _ _ given besides => ?_
    obtain ⟨answered, answeredToo, -⟩ := given
    rw [left] at answered
    rw [leftToo] at answeredToo
    -- The second entry repeats the first one in the one run if it does in the other.
    have same : again = text ↔ again' = text' := by
      have equal := beside.passphrases.equal 1 0
      simpa [Passphrases.entry, answer, answerToo, answered, answeredToo] using equal
    exact .guard besides.1 (not_congr same) rfl fun _ => .done trivial besides.1
  · exact .done trivial besides

theorem meets_newKey {choice other : KeyChoice} (alike : choice.Alike other) :
    Meets (Beside tree tree') SameLength (newKey choice) (newKey other) := by
  obtain ⟨text, random⟩ := choice
  obtain ⟨text', random'⟩ := other
  obtain rfl : random = random' := alike.random
  cases alike.text with
  | @some text text' sizes =>
    have empty : text.isEmpty = text'.isEmpty := by
      rw [← isEmpty_textBytes, ← isEmpty_textBytes, sizes.isEmpty]
    exact .ite (by rw [empty]) (fun _ => .throw _) fun _ => .pure sizes
  | none =>
    match random with
    | none => exact .throw _
    | some 0 => exact .throw _
    | some (length + 1) =>
      refine .bind (meets_onWorld (Ring.meets_randomKey World.Alongside.coupling _)) fun key key' sizes => ?_
      exact .bind (meets_note _) fun _ _ _ => .pure sizes

end Steps

end Desk

end Keyring
