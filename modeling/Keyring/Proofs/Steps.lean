import Keyring.Proofs.Frame
import Keyring.Proofs.Place
import Keyring.Proofs.Rekeying

namespace Keyring

open Keyring.Action

/-- The key that a choice comes to: the one that is given, or random bytes. -/
def KeyChoice.bytes (choice : KeyChoice) (supply : Supply) : Bytes :=
  match choice.text, choice.random with
  | some text, _ => textBytes text
  | none, some length => supply.segment supply.drawn length
  | none, none => []

namespace Passphrases

/-- The passphrase that is given when `count` others have been. -/
def entry (passphrases : Passphrases) : Nat → Except CommandError String
  | 0 => passphrases.next.1
  | count + 1 => passphrases.next.2.entry count

theorem isInteractive_next (passphrases : Passphrases) : passphrases.next.2.isInteractive = passphrases.isInteractive := by
  cases passphrases <;> rfl

end Passphrases

namespace Desk

/-- A desk whose streams take everything. -/
def boundless (world : World) (tree : Tree) (passphrases : Passphrases) : Desk :=
  ⟨world, tree, passphrases, none, none⟩

@[simp]
theorem boundless_tree (world : World) (tree : Tree) (passphrases : Passphrases) :
    (boundless world tree passphrases).tree = tree := rfl

/-- A desk over a tree, whose streams take everything, with a given supply and output. -/
def Over (tree : Tree) (holds : Supply → Bytes → Prop) (desk : Desk) : Prop :=
  ∃ world passphrases, desk = boundless world tree passphrases ∧ holds world.supply world.output

@[simp]
theorem over_boundless {tree other : Tree} {holds : Supply → Bytes → Prop} {world : World}
    {passphrases : Passphrases} :
    Over tree holds (boundless world other passphrases) ↔ other = tree ∧ holds world.supply world.output := by
  constructor
  · rintro ⟨_, _, same, held⟩
    cases same
    exact ⟨rfl, held⟩
  · rintro ⟨rfl, held⟩
    exact ⟨world, passphrases, rfl, held⟩

section Parts

variable {α : Type} {desk later : Desk}

theorem onWorld_done {action : Action CommandError α} {value : α} :
    onWorld action desk = .ok value later ↔
      ∃ world, action desk.world = .ok value world ∧ { desk with world := world } = later :=
  onPart_eq_ok

theorem onWorld_failed {action : Action CommandError α} {failure : Failure CommandError} :
    onWorld action desk = .error failure later ↔
      ∃ world, action desk.world = .error failure world ∧ { desk with world := world } = later :=
  onPart_eq_error

theorem onRing_done {action : RingAction α} {value : α} :
    onRing action desk = .ok value later ↔
      ∃ world, action desk.world = .ok value world ∧ { desk with world := world } = later := by
  simp only [onRing, onWorld_done, mapCause_eq_ok]

/-- The desk after a note. -/
def noted (text : String) (desk : Desk) : Desk :=
  { desk with
    noteRoom := (send desk.noteRoom (textBytes text)).2.1
    world := { desk.world with trace := desk.world.trace.push (.noted (send desk.noteRoom (textBytes text)).1) } }

theorem note_eq (text : String) (desk : Desk) :
    note text desk = Action.ofExcept (send desk.noteRoom (textBytes text)).2.2 (noted text desk) := rfl

/-- The desk after a passphrase was asked for. -/
def asked (prompt : String) (desk : Desk) : Desk :=
  { desk with
    passphrases := desk.passphrases.next.2
    world := if desk.passphrases.isInteractive then
        { desk.world with trace := desk.world.trace.push (.prompted prompt) }
      else desk.world }

/-- A passphrase is the next answer, whether it is asked for or not. -/
theorem askPassphrase_eq (prompt : String) (desk : Desk) :
    askPassphrase prompt desk = Action.ofExcept desk.passphrases.next.1 (asked prompt desk) := by
  obtain ⟨world, tree, passphrases, answerRoom, noteRoom⟩ := desk
  cases passphrases with
  | fixed text => rfl
  | lines input => rfl

theorem randomKey_eq_ok {length : Nat} {key : Bytes} {world later : World}
    (drawn : (Ring.randomKey length : Action CommandError Bytes) world = .ok key later) :
    key = world.supply.segment world.supply.drawn length := by
  simp only [Ring.randomKey, bind_eq_ok, ite_eq_ok, throw_eq_ok, false_and, exists_false, and_false, false_or] at drawn
  exact (draw_eq_ok.mp drawn.2).2.1

/-- A new key is the one that was given, or the next bytes of the supply. No passphrase is asked for. -/
theorem newKey_done {choice : KeyChoice} {key : Bytes} (made : newKey choice desk = .ok key later) :
    key = choice.bytes desk.world.supply ∧ key ≠ [] ∧ later.passphrases = desk.passphrases := by
  obtain ⟨text, random⟩ := choice
  cases text with
  | some text =>
    simp only [newKey, ite_eq_ok, fail_eq_ok, and_false, false_or, pure_eq_ok] at made
    obtain ⟨nonempty, rfl, rfl⟩ := made
    exact ⟨rfl, textBytes_ne_nil (Bool.eq_false_iff.mpr nonempty), rfl⟩
  | none =>
    cases random with
    | none => cases made
    | some length =>
      cases length with
      | zero => cases made
      | succ count =>
        simp only [newKey, bind_eq_ok, onWorld_done, note_eq, ofExcept_eq_ok, pure_eq_ok] at made
        obtain ⟨_, _, ⟨world, drawn, rfl⟩, _, _, ⟨-, rfl⟩, rfl, rfl⟩ := made
        obtain rfl := randomKey_eq_ok drawn
        refine ⟨rfl, List.ne_nil_of_length_pos ?_, rfl⟩
        rw [Supply.length_segment]
        omega

end Parts

section Exact

variable {α : Type} {tree : Tree} {passphrases : Passphrases} {world later : World} {desk : Desk}

theorem onWorld_of_ok {action : Action CommandError α} {value : α} (ran : action world = .ok value later) :
    onWorld action (boundless world tree passphrases) = .ok value (boundless later tree passphrases) :=
  onWorld_done.mpr ⟨later, ran, rfl⟩

theorem onWorld_of_error {action : Action CommandError α} {failure : Failure CommandError}
    (ran : action world = .error failure later) :
    onWorld action (boundless world tree passphrases) = .error failure (boundless later tree passphrases) :=
  onWorld_failed.mpr ⟨later, ran, rfl⟩

theorem onWorld_eq_ok {action : Action CommandError α} {value : α} :
    onWorld action (boundless world tree passphrases) = .ok value desk ↔
      ∃ later, action world = .ok value later ∧ boundless later tree passphrases = desk :=
  onWorld_done

@[simp]
theorem onRing_eq_ok {action : RingAction α} {value : α} :
    onRing action (boundless world tree passphrases) = .ok value desk ↔
      ∃ later, action world = .ok value later ∧ boundless later tree passphrases = desk :=
  onRing_done

theorem onRing_of_ok {action : RingAction α} {value : α} (ran : action world = .ok value later) :
    onRing action (boundless world tree passphrases) = .ok value (boundless later tree passphrases) :=
  onRing_eq_ok.mpr ⟨later, ran, rfl⟩

theorem onRing_of_error {action : RingAction α} {cause : RingError} (ran : action world = .error (.error cause) later) :
    onRing action (boundless world tree passphrases) =
      .error (.error (.ring cause)) (boundless later tree passphrases) := by
  refine onWorld_of_error ?_
  unfold mapCause
  rw [ran]

@[simp]
theorem ofFile_eq_ok {path : String} {outcome : Except IoFailure α} {value : α} {before after : Desk} :
    ofFile path outcome before = .ok value after ↔ outcome = .ok value ∧ before = after := by
  simp [ofFile]

/-- What is printed comes after all other output. -/
theorem print_boundless (text : String) (world : World) (tree : Tree) (passphrases : Passphrases) :
    ∃ later : World, later.supply = world.supply ∧ later.output = world.output ++ textBytes text ∧
      print text (boundless world tree passphrases) = .ok () (boundless later tree passphrases) :=
  ⟨⟨world.supply, world.trace.push (.printed (textBytes text))⟩, rfl, output_push_printed _ _ _, rfl⟩

theorem print_eq_ok {text : String} {result : Unit}
    (printed : print text (boundless world tree passphrases) = .ok result desk) :
    ∃ later : World, desk = boundless later tree passphrases ∧ later.output = world.output ++ textBytes text := by
  obtain ⟨later, -, output, same⟩ := print_boundless text world tree passphrases
  rw [same] at printed
  cases printed
  exact ⟨later, rfl, output⟩

theorem askPassphrase_boundless (prompt : String) (world : World) (tree : Tree) (passphrases : Passphrases) :
    ∃ asked : World, asked.supply = world.supply ∧ asked.output = world.output ∧
      askPassphrase prompt (boundless world tree passphrases) =
        Action.ofExcept passphrases.next.1 (boundless asked tree passphrases.next.2) := by
  cases passphrases with
  | fixed text => exact ⟨world, rfl, rfl, rfl⟩
  | lines input =>
    exact ⟨⟨world.supply, world.trace.push (.prompted prompt)⟩, rfl, output_push rfl _ _, rfl⟩

end Exact

section Keeping

variable {α : Type} {tree : Tree} {holds : Supply → Bytes → Prop}

theorem over_onWorld {action : Action CommandError α}
    (keeps : Keeps (fun world => holds world.supply world.output) action) :
    Keeps (Over tree holds) (onWorld action) := by
  rintro _ ⟨world, passphrases, rfl, held⟩
  have kept := keeps world held
  cases ran : action world with
  | ok value later =>
    rw [ran] at kept
    rw [onWorld_of_ok ran]
    exact over_boundless.mpr ⟨rfl, kept⟩
  | error failure later =>
    rw [ran] at kept
    rw [onWorld_of_error ran]
    exact over_boundless.mpr ⟨rfl, kept⟩

theorem over_onRing {action : RingAction α} (keeps : Keeps (fun world => holds world.supply world.output) action) :
    Keeps (Over tree holds) (onRing action) :=
  over_onWorld (.mapCause keeps)

theorem over_log (event : Event) : Keeps (Over tree holds) (log event) :=
  over_onWorld (Quiet.log event holds)

theorem over_note (text : String) : Keeps (Over tree holds) (note text) := by
  rintro _ ⟨world, passphrases, rfl, held⟩
  refine over_boundless.mpr ⟨rfl, ?_⟩
  rw [output_push rfl]
  exact held

theorem over_askPassphrase (prompt : String) : Keeps (Over tree holds) (askPassphrase prompt) := by
  rintro _ ⟨world, passphrases, rfl, held⟩
  obtain ⟨asked, supply, output, same⟩ := askPassphrase_boundless prompt world tree passphrases
  rw [same]
  refine Keeps.ofExcept _ _ (over_boundless.mpr ⟨rfl, ?_⟩)
  rwa [supply, output]

theorem over_newPassphrase (emptyOk : Bool) : Keeps (Over tree holds) (newPassphrase emptyOk) := by
  unfold newPassphrase
  refine .bind (over_askPassphrase _) fun passphrase => Keeps.guard fun _ => ?_
  refine .bind .get fun desk => .ite ?_ (.pure _)
  exact .bind (over_askPassphrase _) fun again => Keeps.guard fun _ => .pure _

theorem over_newKey {holds : Bytes → Prop} (choice : KeyChoice) :
    Keeps (Over tree fun _ output => holds output) (newKey choice) := by
  unfold newKey
  split
  · exact .ite (.throw _) (.pure _)
  · exact .throw _
  · refine .bind (over_onWorld ?_) fun key => .bind (over_note _) fun _ => .pure _
    exact Ring.silent_randomKey _ holds
  · exact .throw _

end Keeping

section Given

variable {tree : Tree} {world : World} {passphrases : Passphrases} {desk : Desk}

theorem newKey_eq_ok {choice : KeyChoice} {key : Bytes}
    (made : newKey choice (boundless world tree passphrases) = .ok key desk) :
    key = choice.bytes world.supply ∧
      ∃ later, desk = boundless later tree passphrases ∧ later.output = world.output := by
  have begun : Over tree (fun _ output => output = world.output) (boundless world tree passphrases) :=
    over_boundless.mpr ⟨rfl, rfl⟩
  obtain ⟨later, left, rfl, output⟩ := (over_newKey choice).of_ok begun made
  obtain ⟨bytes, -, same⟩ := newKey_done made
  obtain rfl : left = passphrases := same
  exact ⟨bytes, later, rfl, output⟩

/-- A new passphrase is the next answer. -/
theorem newPassphrase_eq_ok {emptyOk : Bool} {passphrase : String}
    (given : newPassphrase emptyOk (boundless world tree passphrases) = .ok passphrase desk) :
    passphrases.next.1 = .ok passphrase ∧ ∃ later rest, desk = boundless later tree rest := by
  have begun : Over tree (fun _ _ => True) (boundless world tree passphrases) := over_boundless.mpr ⟨rfl, trivial⟩
  obtain ⟨later, rest, shape, -⟩ := (over_newPassphrase emptyOk).of_ok begun given
  obtain ⟨asked, -, -, same⟩ := askPassphrase_boundless "New passphrase: " world tree passphrases
  simp only [newPassphrase, bind_eq_ok, ite_eq_ok, fail_eq_ok, pure_eq_ok, false_and, exists_false, and_false,
    false_or] at given
  obtain ⟨text, _, answered, -, _, _, -, confirmed⟩ := given
  rw [same] at answered
  obtain ⟨answer, -⟩ := ofExcept_eq_ok.mp answered
  -- The second answer only confirms the first.
  have returned : text = passphrase := by
    rcases confirmed with ⟨-, _, _, -, -, returned, -⟩ | ⟨-, returned, -⟩
    · exact returned
    · exact returned
  exact ⟨returned ▸ answer, later, rest, shape⟩

end Given

end Desk

namespace Session

open Desk

variable {tree : Tree} {holds : Supply → Bytes → Prop}

/-- Opening a keyring leaves the tree, draws nothing and answers nothing. -/
theorem over_openRing (path : String) : Keeps (Over tree holds) (openRing path) := by
  unfold openRing
  refine .bind .get fun desk => .bind (.ofExcept _) fun source => ?_
  refine .bind (over_askPassphrase _) fun passphrase => ?_
  refine .bind (over_onRing (Ring.quiet_read _ _ _)) fun ring => ?_
  exact .bind (over_log _) fun _ => .pure _

section Opening

variable {path : String} {source : Source} {passphrase : String} {world : World} {passphrases : Passphrases}

theorem openRing_unchanged {ring : Ring} {later : World} {left : Passphrases}
    (opened : openRing path (boundless world tree passphrases) = .ok ring (boundless later tree left)) :
    later.supply = world.supply ∧ later.output = world.output := by
  have begun : Over tree (fun supply output => supply = world.supply ∧ output = world.output)
      (boundless world tree passphrases) := over_boundless.mpr ⟨rfl, rfl, rfl⟩
  exact (over_boundless.mp ((over_openRing path).of_ok begun opened)).2

theorem openRing_eq_ok {ring : Ring} {desk : Desk}
    (opened : openRing path (boundless world tree passphrases) = .ok ring desk) :
    ∃ source passphrase later, tree.source path = .ok source ∧ passphrases.next.1 = .ok passphrase ∧
      (∃ begun ended, Ring.read source (.passphrase passphrase) begun = .ok ring ended) ∧
      desk = boundless later tree passphrases.next.2 ∧ later.supply = world.supply ∧ later.output = world.output := by
  obtain ⟨asked, -, -, same⟩ := askPassphrase_boundless "Passphrase: " world tree passphrases
  have whole := opened
  unfold openRing at opened
  simp only [bind_eq_ok, get_eq_ok, ofFile_eq_ok, pure_eq_ok] at opened
  obtain ⟨_, _, ⟨rfl, rfl⟩, source, _, ⟨found, rfl⟩, passphrase, _, answered, _, _, delivered, _, _, logged, rfl,
    rfl⟩ := opened
  rw [same] at answered
  obtain ⟨answer, rfl⟩ := ofExcept_eq_ok.mp answered
  obtain ⟨ended, read, rfl⟩ := onRing_eq_ok.mp delivered
  cases logged
  exact ⟨source, passphrase, _, found, answer, ⟨asked, ended, read⟩, rfl, openRing_unchanged whole⟩

/-- Opening goes on to reading when the file is there and a passphrase is given. -/
theorem openRing_asked (found : tree.source path = .ok source) (answer : passphrases.next.1 = .ok passphrase)
    (world : World) :
    ∃ asked : World, asked.output = world.output ∧
      openRing path (boundless world tree passphrases) =
        (do
          let ring ← Desk.onRing (Ring.read source (.passphrase passphrase))
          Desk.log (.ofSession "opened keyring" [("path", path), ("keys", toString ring.length)])
          return ring : DeskAction Ring) (boundless asked tree passphrases.next.2) := by
  obtain ⟨asked, -, output, same⟩ := askPassphrase_boundless "Passphrase: " world tree passphrases
  have answered : Desk.askPassphrase "Passphrase: " (boundless world tree passphrases) =
      .ok passphrase (boundless asked tree passphrases.next.2) := by
    rw [same, answer]
    rfl
  refine ⟨asked, output, ?_⟩
  unfold openRing
  rw [bind_get, boundless_tree, bind_of_ok (ofFile_eq_ok.mpr ⟨found, rfl⟩), bind_of_ok answered]

theorem openRing_of_ok {ring : Ring} (found : tree.source path = .ok source)
    (answer : passphrases.next.1 = .ok passphrase)
    (reads : ∀ begun, ∃ ended, Ring.read source (.passphrase passphrase) begun = .ok ring ended) (world : World) :
    ∃ later, openRing path (boundless world tree passphrases) = .ok ring (boundless later tree passphrases.next.2) := by
  obtain ⟨asked, -, same⟩ := openRing_asked found answer world
  obtain ⟨ended, read⟩ := reads asked
  rw [same, bind_of_ok (onRing_of_ok read)]
  exact ⟨_, rfl⟩

theorem openRing_of_error {cause : RingError} (found : tree.source path = .ok source)
    (answer : passphrases.next.1 = .ok passphrase)
    (fails : ∀ begun, ∃ ended, Ring.read source (.passphrase passphrase) begun = .error (.error cause) ended)
    (world : World) :
    ∃ later : World, later.output = world.output ∧ openRing path (boundless world tree passphrases) =
      .error (.error (.ring cause)) (boundless later tree passphrases.next.2) := by
  obtain ⟨asked, output, same⟩ := openRing_asked found answer world
  obtain ⟨ended, failed⟩ := fails asked
  have silent : ended.output = world.output :=
    ((Ring.quiet_read source _).silent (· = world.output)).of_error output failed
  refine ⟨ended, silent, ?_⟩
  rw [same, bind_of_error (onRing_of_error failed)]

/-- A data key that the passphrase does not open is not unlocked. -/
theorem unlock_of_refused {container : Container} {wrappedKey : Bytes}
    (stored : Ring.content? .dataKey container.packets = some wrappedKey) (answer : passphrases.next.1 = .ok passphrase)
    (refused : Sealing.openWith
      (Credential.key (.passphrase passphrase) ((Ring.content? .salt container.packets).getD [])) wrappedKey [] =
        .error .refused) (world : World) :
    ∃ later : World, later.output = world.output ∧ unlock container (boundless world tree passphrases) =
      .error (.error (.unlock .refused)) (boundless later tree passphrases.next.2) := by
  let begun : World := ⟨world.supply,
    world.trace.push (.noted (textBytes "Found encrypted bundles, passphrase required to decrypt\n"))⟩
  have noted : Desk.note "Found encrypted bundles, passphrase required to decrypt\n"
      (boundless world tree passphrases) = .ok () (boundless begun tree passphrases) := rfl
  obtain ⟨asked, -, output, same⟩ := askPassphrase_boundless "Passphrase: " begun tree passphrases
  have answered : Desk.askPassphrase "Passphrase: " (boundless begun tree passphrases) =
      .ok passphrase (boundless asked tree passphrases.next.2) := by
    rw [same, answer]
    rfl
  refine ⟨asked, output.trans (output_push rfl _ _), ?_⟩
  unfold unlock
  simp only [stored, pure_bind]
  rw [bind_of_ok noted, bind_of_ok answered]
  refine bind_of_error (onWorld_of_error ?_) _
  rw [Ring.openContent, refused]
  rfl

end Opening

section Saving

variable {path : String} {ring : Ring} {fresh : Bool} {world : World} {passphrases : Passphrases}

/-- A keyring that has been saved is written to where the path leads. -/
theorem save_eq_ok {desk : Desk} (saved : save path ring fresh (boundless world tree passphrases) = .ok () desk) :
    tree.checkFolder (Path.folder path) = .ok () ∧
      ∃ data next later, (∃ encoded, ring.encode world = .ok data encoded) ∧ tree.place path data fresh = .ok next ∧
        desk = boundless later next passphrases ∧ later.output = world.output := by
  unfold save at saved
  simp only [bind_eq_ok, get_eq_ok, ofFile_eq_ok, ofExcept_eq_ok] at saved
  obtain ⟨_, _, ⟨rfl, rfl⟩, _, _, ⟨checked, rfl⟩, delivery, _, delivered, _, _, ⟨counted, rfl⟩, next, _,
    ⟨placed, rfl⟩, _, _, modified, _, _, logged, noted⟩ := saved
  obtain ⟨written, wrote, rfl⟩ := onRing_eq_ok.mp delivered
  obtain ⟨data, encoded, rfl⟩ := (Ring.write_eq_ok_iff world).mp ⟨written, wrote⟩
  have output : written.output = world.output :=
    (Ring.silent_write ring .boundless (· = world.output)).of_ok rfl wrote
  cases modified
  cases logged
  cases noted
  refine ⟨checked, data, next, _, encoded, placed, rfl, ?_⟩
  rw [output_push rfl, output_push rfl]
  exact output

/-- Once the file stands, there is only a note to be made. -/
theorem save_eq_note (path : String) (desk : Desk) {data : Bytes} {next : Tree}
    (checked : desk.tree.checkFolder (Path.folder path) = .ok ())
    (encoded : ∃ later, ring.encode desk.world = .ok data later) (placed : desk.tree.place path data fresh = .ok next) :
    ∃ later, save path ring fresh desk =
      note s!"Wrote {data.length} bytes to {Quoted.ofString (Path.displayName path)}\n"
        { desk with tree := next, world := later } := by
  have writes : ∃ later, ring.write .boundless desk.world = .ok ⟨data, .ok data.length⟩ later :=
    (Ring.write_eq_ok_iff desk.world).mpr ⟨data, encoded, rfl⟩
  obtain ⟨written, wrote⟩ := writes
  let saved : Mark := .event (.ofSession "saved keyring" [("path", path), ("bytes", toString data.length)])
  refine ⟨{ written with trace := written.trace.push saved }, ?_⟩
  unfold save
  rw [bind_get, bind_of_ok (ofFile_eq_ok.mpr ⟨checked, rfl⟩), bind_of_ok (onRing_done.mpr ⟨_, wrote, rfl⟩),
    bind_of_ok (ofExcept_eq_ok.mpr ⟨Outcome.mapError_eq_ok.mpr rfl, rfl⟩), bind_of_ok (ofFile_eq_ok.mpr ⟨placed, rfl⟩)]
  rfl

theorem save_of {data : Bytes} {next : Tree} (checked : tree.checkFolder (Path.folder path) = .ok ())
    (encoded : ∃ later, ring.encode world = .ok data later) (placed : tree.place path data fresh = .ok next) :
    ∃ later, save path ring fresh (boundless world tree passphrases) = .ok () (boundless later next passphrases) := by
  obtain ⟨later, same⟩ := save_eq_note path (boundless world tree passphrases) checked encoded placed
  rw [same]
  exact ⟨_, rfl⟩

end Saving

end Session

end Keyring
