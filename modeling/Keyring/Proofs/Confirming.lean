import Keyring.Proofs.Footprint
import Keyring.Proofs.Prompting
import Keyring.Proofs.Serving

namespace Keyring

open Keyring.Action

namespace Passphrases

/-- How often a new passphrase is entered. -/
def entries (passphrases : Passphrases) : Nat :=
  if passphrases.isInteractive then 2 else 1

/-- A new passphrase that is entered alike each time, and is not empty unless that is allowed. -/
structure Settles (passphrases : Passphrases) (emptyOk : Bool) (passphrase : String) : Prop where
  alike : passphrases.answers passphrases.entries = List.replicate passphrases.entries (.ok passphrase)
  allowed : passphrase = "" → emptyOk = true

theorem settles_fixed_iff {text passphrase : String} {emptyOk : Bool} :
    (fixed text).Settles emptyOk passphrase ↔ passphrase = text ∧ (passphrase = "" → emptyOk = true) := by
  have answered : (fixed text).answers (fixed text).entries = [.ok text] := rfl
  have once : List.replicate (fixed text).entries (.ok passphrase : Except CommandError String) = [.ok passphrase] := rfl
  constructor
  · rintro ⟨alike, allowed⟩
    rw [answered, once] at alike
    cases alike
    exact ⟨rfl, allowed⟩
  · rintro ⟨rfl, allowed⟩
    exact ⟨rfl, allowed⟩

theorem settles_lines_iff {input : Bytes} {passphrase : String} {emptyOk : Bool} :
    (lines input).Settles emptyOk passphrase ↔
      (lines input).answers 2 = [.ok passphrase, .ok passphrase] ∧ (passphrase = "" → emptyOk = true) :=
  ⟨fun settled => ⟨settled.alike, settled.allowed⟩, fun given => ⟨given.1, given.2⟩⟩

end Passphrases

namespace Desk

variable {α : Type} {emptyOk : Bool} {passphrase : String} {desk later : Desk}

/-- The desk after a new passphrase was entered. -/
def entered (desk : Desk) : Desk :=
  if desk.passphrases.isInteractive then asked "Confirm new passphrase: " (asked "New passphrase: " desk)
  else asked "New passphrase: " desk

theorem isInteractive_asked (prompt : String) (desk : Desk) :
    (asked prompt desk).passphrases.isInteractive = desk.passphrases.isInteractive :=
  desk.passphrases.isInteractive_next

theorem passphrases_entered (desk : Desk) :
    desk.entered.passphrases = desk.passphrases.after desk.passphrases.entries := by
  cases given : desk.passphrases with
  | fixed text => simp [entered, Passphrases.entries, Passphrases.isInteractive, Passphrases.after, asked, given]
  | lines input => simp [entered, Passphrases.entries, Passphrases.isInteractive, Passphrases.after, asked, given]

/-- A new passphrase is the one that is settled on, and no answer is taken beyond those that settle it. -/
theorem newPassphrase_done :
    newPassphrase emptyOk desk = .ok passphrase later ↔
      desk.passphrases.Settles emptyOk passphrase ∧ later = desk.entered := by
  have filled : ∀ text : String, ¬ (text.isEmpty = true ∧ (!emptyOk) = true) ↔ (text = "" → emptyOk = true) := by
    simp [String.isEmpty_iff]
  simp only [newPassphrase, bind_eq_ok, askPassphrase_eq, ofExcept_eq_ok, ite_eq_ok, fail_eq_ok, get_eq_ok, pure_eq_ok,
    false_and, exists_false, and_false, false_or, filled]
  have same := isInteractive_asked "New passphrase: " desk
  cases given : desk.passphrases with
  | fixed text =>
    have quiet : (asked "New passphrase: " desk).passphrases.isInteractive = false := same.trans (given ▸ rfl)
    have once : desk.entered = asked "New passphrase: " desk := by rw [entered, given]; rfl
    rw [Passphrases.settles_fixed_iff, once]
    constructor
    · rintro ⟨_, _, ⟨answer, rfl⟩, allowed, _, _, ⟨rfl, rfl⟩, ⟨asks, -⟩ | ⟨-, rfl, rfl⟩⟩
      · cases quiet.symm.trans asks
      · exact ⟨⟨(Except.ok.inj answer).symm, allowed⟩, rfl⟩
    · rintro ⟨⟨rfl, allowed⟩, rfl⟩
      exact ⟨passphrase, _, ⟨rfl, rfl⟩, allowed, _, _, ⟨rfl, rfl⟩, .inr ⟨by simp [quiet], rfl, rfl⟩⟩
  | lines input =>
    have asks : (asked "New passphrase: " desk).passphrases.isInteractive = true := same.trans (given ▸ rfl)
    have both : (Passphrases.lines input).answers 2 = [.ok passphrase, .ok passphrase] ↔
        (Passphrases.lines input).next.1 = .ok passphrase ∧
          (asked "New passphrase: " desk).passphrases.next.1 = .ok passphrase := by
      rw [asked, given, Passphrases.answers_succ, Passphrases.answers_succ]
      simp [Passphrases.answers]
    have twice : desk.entered = asked "Confirm new passphrase: " (asked "New passphrase: " desk) := by
      rw [entered, given]
      rfl
    rw [Passphrases.settles_lines_iff, twice, both]
    constructor
    · rintro ⟨_, _, ⟨answer, rfl⟩, allowed, _, _, ⟨rfl, rfl⟩, ⟨-, again, _, ⟨answerToo, rfl⟩, alike, rfl, rfl⟩ | ⟨quiet, -⟩⟩
      · obtain rfl := not_not.mp alike
        exact ⟨⟨⟨answer, answerToo⟩, allowed⟩, rfl⟩
      · exact absurd asks quiet
    · rintro ⟨⟨⟨answer, answerToo⟩, allowed⟩, rfl⟩
      exact ⟨passphrase, _, ⟨answer, rfl⟩, allowed, _, _, ⟨rfl, rfl⟩,
        .inl ⟨asks, passphrase, _, ⟨answerToo, rfl⟩, by simp, rfl, rfl⟩⟩

end Desk

namespace Session

open Desk

section Unasked

variable {α : Type} {passphrases : Passphrases}

theorem unasked_onWorld (action : Action CommandError α) :
    Keeps (fun desk => desk.passphrases = passphrases) (onWorld action) := by
  intro desk given
  unfold onWorld onPart
  cases action desk.world with
  | ok value world => exact given
  | error failure world => exact given

theorem unasked_ofExcept (outcome : Except CommandError α) :
    Keeps (fun desk => desk.passphrases = passphrases) (Action.ofExcept outcome : DeskAction α) :=
  .ofExcept outcome

theorem unasked_print (text : String) : Keeps (fun desk => desk.passphrases = passphrases) (print text) :=
  fun _ given => unasked_ofExcept _ _ given

/-- Saving asks for no passphrase. -/
theorem unasked_save (path : String) (ring : Ring) (fresh : Bool) :
    Keeps (fun desk => desk.passphrases = passphrases) (save path ring fresh) := by
  unfold save
  refine .bind .get fun desk => .bind (.ofExcept _) fun _ => .bind (unasked_onWorld _) fun delivery => ?_
  refine .bind (.ofExcept _) fun written => .bind (.ofExcept _) fun tree => .bind (fun _ given => given) fun _ => ?_
  refine .bind (unasked_onWorld _) fun _ => ?_
  intro desk given
  rw [note_eq]
  exact unasked_ofExcept _ _ given

theorem passphrases_openRing {path : String} {ring : Ring} {desk later : Desk}
    (opened : openRing path desk = .ok ring later) : later.passphrases = desk.passphrases.next.2 := by
  simp only [openRing, bind_eq_ok, get_eq_ok, ofFile_eq_ok, pure_eq_ok] at opened
  obtain ⟨_, _, ⟨rfl, rfl⟩, source, _, ⟨-, rfl⟩, passphrase, between, answered, _, _, delivered, _, _, logged, rfl, rfl⟩ :=
    opened
  rw [askPassphrase_eq] at answered
  obtain ⟨-, rfl⟩ := ofExcept_eq_ok.mp answered
  have read := (unasked_onWorld _).of_ok rfl delivered
  exact ((unasked_onWorld _).of_ok rfl logged).trans read

end Unasked

section Saved

variable {path passphrase : String} {ring : Ring} {fresh : Bool} {desk later : Desk}

theorem save_done (saved : save path ring fresh desk = .ok () later) :
    ∃ data, ring.Writes data ∧ desk.tree.place path data fresh = .ok later.tree := by
  simp only [save, bind_eq_ok, get_eq_ok, ofFile_eq_ok, ofExcept_eq_ok] at saved
  obtain ⟨_, _, ⟨rfl, rfl⟩, _, _, ⟨-, rfl⟩, delivery, _, delivered, _, _, ⟨-, rfl⟩, next, _, ⟨placed, rfl⟩, _, _,
    modified, _, _, logged, noted⟩ := saved
  obtain ⟨written, wrote, rfl⟩ := onRing_done.mp delivered
  obtain ⟨data, -, rfl⟩ := (Ring.write_eq_ok_iff desk.world).mp ⟨written, wrote⟩
  cases modified
  cases logged
  rw [note_eq] at noted
  obtain ⟨-, rfl⟩ := ofExcept_eq_ok.mp noted
  exact ⟨data, ⟨_, _, _, _, wrote⟩, placed⟩

/-- One file is new, and whoever reads it with the passphrase gets a ring with these keys. -/
def Renews (before after : Tree) (path passphrase : String) (keys : Snapshot → Prop) : Prop :=
  ∃ spot data ring, before.Replaces after path spot data ∧ Ring.ReadsAs data (.passphrase passphrase) ring ∧
    keys ring.view

theorem Renews.of_place {data : Bytes} {before after : Tree} {keys : Snapshot → Prop} (written : ring.Writes data)
    (formed : ring.WellFormed (Credential.key (.passphrase passphrase) ring.salt)) (held : keys ring.view)
    (placed : before.place path data fresh = .ok after) : Renews before after path passphrase keys := by
  obtain ⟨spot, replaces, -⟩ := Tree.Replaces.of_place placed
  exact ⟨spot, data, ring, replaces, written.reads formed, held⟩

end Saved

/-- What comes of a command that asks for a new passphrase: its file changes only under the passphrase that was settled
on with the last answers, it does when the command succeeds, and with nothing settled the command fails. -/
structure Confirms (start : Desk) (path : String) (emptyOk : Bool) (answers : Passphrases) (keys : Snapshot → Prop)
    (result : EStateM.Result (Failure CommandError) Desk Unit) : Prop where
  changed : (left result).tree ≠ start.tree → ∃ passphrase, answers.Settles emptyOk passphrase ∧
    (left result).passphrases = answers.after answers.entries ∧
    Renews start.tree (left result).tree path passphrase keys
  finished : ∀ later, result = .ok () later → ∃ passphrase, answers.Settles emptyOk passphrase ∧
    later.passphrases = answers.after answers.entries ∧ Renews start.tree later.tree path passphrase keys
  unsettled : (∀ passphrase, ¬ answers.Settles emptyOk passphrase) →
    ∃ failure later, result = .error failure later ∧ later.tree = start.tree

section Confirming

variable {path : String} {emptyOk fresh : Bool} {choice : KeyChoice} {desk : Desk}

/-- A ring that is under the passphrase that was settled on is all that is saved. -/
theorem Confirms.of_save {start between : Desk} {answers : Passphrases} {passphrase : String} {ring : Ring}
    {keys : Snapshot → Prop} (since : Since start between) (settled : answers.Settles emptyOk passphrase)
    (asked : between.passphrases = answers.after answers.entries)
    (formed : ring.WellFormed (Credential.key (.passphrase passphrase) ring.salt)) (held : keys ring.view) :
    Confirms start path emptyOk answers keys (save path ring fresh between) where
  changed differs := by
    refine ⟨passphrase, settled, unasked_save path ring fresh between asked, ?_⟩
    rw [← since.tree] at differs ⊢
    rcases save_tree path ring fresh between with same | ⟨data, ended, encoded, placed⟩
    · exact absurd same differs
    · obtain ⟨last, wrote⟩ := (Ring.write_eq_ok_iff between.world).mpr ⟨data, ⟨ended, encoded⟩, rfl⟩
      exact .of_place ⟨.boundless, _, between.world, last, wrote⟩ formed held placed
  finished later saved := by
    obtain ⟨data, written, placed⟩ := save_done saved
    rw [since.tree] at placed
    exact ⟨passphrase, settled, (unasked_save path ring fresh).of_ok asked saved, .of_place written formed held placed⟩
  unsettled none := absurd settled (none passphrase)

theorem Confirms.of_error {start later : Desk} {answers : Passphrases} {keys : Snapshot → Prop}
    {failure : Failure CommandError} (since : Since start later) :
    Confirms start path emptyOk answers keys (.error failure later) where
  changed differs := absurd since.tree differs
  finished _ done := by cases done
  unsettled _ := ⟨failure, later, rfl, since.tree⟩

section Rules

variable {start : Desk} {answers : Passphrases} {keys : Snapshot → Prop} (since : Since start desk)
include since

theorem Confirms.bind {α : Type} {action : DeskAction α} {next : α → DeskAction Unit}
    (orderly : Orderly (Since start) (fun _ => True) action)
    (rest : ∀ value between, action desk = .ok value between → Since start between →
      Confirms start path emptyOk answers keys (next value between)) :
    Confirms start path emptyOk answers keys ((action >>= next) desk) := by
  rcases orderly.bind_cases since next with ⟨_, _, failed, kept⟩ | ⟨value, between, ran, kept, same⟩
  · rw [failed]
    exact .of_error kept
  · rw [same]
    exact rest value between ran kept

theorem Confirms.guard {p : Prop} [Decidable p] {failure : Failure CommandError} {rest : PUnit → DeskAction Unit}
    (passed : ¬ p → Confirms start path emptyOk answers keys (rest () desk)) :
    Confirms start path emptyOk answers keys
      ((if p then MonadExcept.throw failure >>= rest else rest ()) desk) := by
  by_cases stops : p
  · rw [if_pos stops]
    exact .of_error since
  · rw [if_neg stops]
    exact passed stops

end Rules

theorem create_confirms : Confirms desk path emptyOk desk.passphrases
    (fun view => view.keys.entries = [⟨1, choice.bytes desk.world.supply⟩] ∧ view.activeId = 1)
    (create emptyOk path choice desk) := by
  unfold create
  rw [bind_get]
  refine .guard (Since.refl desk) fun _ => ?_
  refine .bind (Since.refl desk) (orderly_newKey choice (fun _ => trivial) fun _ _ _ => trivial) fun key keyed made since => ?_
  obtain ⟨rfl, -, same⟩ := newKey_done made
  refine .bind since (orderly_newPassphrase emptyOk) fun passphrase _ given since => ?_
  obtain ⟨settled, rfl⟩ := newPassphrase_done.mp given
  -- Nothing is asked for from here on, so these were the last answers.
  have asked := passphrases_entered keyed
  rw [same] at settled asked
  refine .bind since (orderly_onWorld (Derivation.orderly_newAccessKey (fun _ => trivial) _)) ?_
  rintro ⟨accessKey, salt⟩ _ salted since
  refine .bind since (orderly_onRing (Ring.orderly_new (fun _ => trivial) _)) fun ring _ founding since => ?_
  obtain ⟨_, salting, rfl⟩ := onWorld_done.mp salted
  obtain ⟨_, begun, rfl⟩ := onRing_done.mp founding
  cases Derivation.newAccessKey_eq_ok salting
  have formed := (Ring.Origin.new begun).wellFormed
  obtain ⟨-, -, -, _, -, rfl⟩ := (Ring.new_eq_ok_iff _).mp ⟨_, begun⟩
  exact .of_save since settled asked formed ⟨rfl, rfl⟩

theorem rekey_confirms : Confirms desk path emptyOk desk.passphrases.next.2
    (fun view => ∃ ring, desk.Opens path ring ∧ view = ring.view) (rekey emptyOk path desk) := by
  unfold rekey
  refine .bind (Since.refl desk) (orderly_openRing path) fun ring opening opened since => ?_
  have opens := openRing_opens opened
  refine .bind since (orderly_newPassphrase emptyOk) fun passphrase _ given since => ?_
  obtain ⟨settled, rfl⟩ := newPassphrase_done.mp given
  have asked := passphrases_entered opening
  rw [passphrases_openRing opened] at settled asked
  refine .bind since (orderly_onWorld (Derivation.orderly_newAccessKey (fun _ => trivial) _)) ?_
  rintro ⟨accessKey, salt⟩ _ salted since
  refine .bind since (orderly_onRing (Ring.orderly_rekey (fun _ => trivial) ring accessKey (some salt))) ?_
  intro next _ rekeyed since
  obtain ⟨_, salting, rfl⟩ := onWorld_done.mp salted
  obtain ⟨_, rekeying, rfl⟩ := onRing_done.mp rekeyed
  cases Derivation.newAccessKey_eq_ok salting
  obtain ⟨_, formed⟩ := opens.sound.formed
  obtain ⟨-, wrappedKey, wrapped, rfl⟩ := (Ring.rekey_eq_ok_iff _).mp ⟨_, rekeying⟩
  have unwraps := Sealing.openWith_eq_ok_iff.mpr ⟨_, Supply.length_segment _ _ _, wrapped⟩
  refine .bind since (orderly_print _) fun _ _ printed since => ?_
  have told := (unasked_print _).of_ok rfl printed
  exact .of_save since settled (told.trans asked) (formed.effect (.rekeyed unwraps)) ⟨ring, opens, rfl⟩

/-- Without a passphrase that opens its file, a command that needs it fails. -/
theorem rekey_unopened (closed : ∀ ring, ¬ desk.Opens path ring) :
    ∃ failure later, rekey emptyOk path desk = .error failure later ∧ later.tree = desk.tree := by
  have opening : Orderly (Since desk) (fun _ => True) (openRing path) := orderly_openRing path
  unfold rekey
  rcases opening.bind_cases (Since.refl desk) _ with ⟨failure, later, failed, since⟩ | ⟨ring, _, opened, -⟩
  · exact ⟨failure, later, failed, since.tree⟩
  · exact absurd (openRing_opens opened) (closed ring)

/-- A new passphrase takes effect only if it is entered twice alike, or comes from where it is always the same. Creating
and rekeying write a file only under that passphrase, with the key that was given or the keys that were there. In all
other cases they fail and leave the files alone, and rekeying also does if the first answer does not open the file. -/
theorem new_passphrase_confirmed (emptyOk : Bool) (path : String) (desk : Desk) :
    (∀ choice : KeyChoice, Confirms desk path emptyOk desk.passphrases
      (fun view => view.keys.entries = [⟨1, choice.bytes desk.world.supply⟩] ∧ view.activeId = 1)
      (create emptyOk path choice desk)) ∧
    Confirms desk path emptyOk desk.passphrases.next.2
      (fun view => ∃ ring, desk.Opens path ring ∧ view = ring.view) (rekey emptyOk path desk) ∧
    ((∀ ring, ¬ desk.Opens path ring) →
      ∃ failure later, rekey emptyOk path desk = .error failure later ∧ later.tree = desk.tree) ∧
    (∀ passphrase, (∃ later, newPassphrase emptyOk desk = .ok passphrase later) ↔
      desk.passphrases.Settles emptyOk passphrase) ∧
    (∀ input passphrase, (Passphrases.lines input).Settles emptyOk passphrase ↔
      (Passphrases.lines input).answers 2 = [.ok passphrase, .ok passphrase] ∧ (passphrase = "" → emptyOk = true)) ∧
    ∀ text passphrase, (Passphrases.fixed text).Settles emptyOk passphrase ↔
      passphrase = text ∧ (passphrase = "" → emptyOk = true) := by
  refine ⟨fun _ => create_confirms, rekey_confirms, rekey_unopened, fun passphrase => ?_, ?_, ?_⟩
  · constructor
    · rintro ⟨_, given⟩
      exact (newPassphrase_done.mp given).1
    · exact fun settled => ⟨_, newPassphrase_done.mpr ⟨settled, rfl⟩⟩
  · exact fun _ _ => Passphrases.settles_lines_iff
  · exact fun _ _ => Passphrases.settles_fixed_iff

/-- A keyring is made under a passphrase that is entered twice, and none if the second entry differs. -/
theorem new_passphrase_confirmed_twice :
    let desk (input : String) : Desk := .boundless (Ring.worldFrom []) ⟨[], []⟩ (.lines (textBytes input))
    (∃ later, create false "ring" ⟨some "k", none⟩ (desk "pw\npw\nrest") = .ok () later ∧
      later.passphrases = .lines (textBytes "rest") ∧
      Renews ⟨[], []⟩ later.tree "ring" "pw" fun view => view.keys.entries = [⟨1, textBytes "k"⟩] ∧ view.activeId = 1) ∧
    ∃ failure later, create false "ring" ⟨some "k", none⟩ (desk "one\ntwo\n") = .error failure later ∧
      later.tree = ⟨[], []⟩ := by
  intro desk
  constructor
  · have folder : Tree.checkFolder ⟨[], []⟩ (Path.folder "ring") = .ok () := rfl
    have places : Tree.Places ⟨[], []⟩ "ring" ["ring"] := ⟨rfl, rfl, rfl, by decide⟩
    have made : newKey ⟨some "k", none⟩ (desk "pw\npw\nrest") = .ok (textBytes "k") (desk "pw\npw\nrest") := rfl
    have offers : (Passphrases.lines (textBytes "pw\npw\nrest")).Offers false "pw" := fun _ _ => ⟨_, _, rfl⟩
    obtain ⟨later, finished⟩ := Account.creates folder places rfl made offers (by decide) (by decide)
      ⟨by decide, by simp [Ring.worldFrom]⟩
    obtain ⟨creates, -, -, -, settles, -⟩ := new_passphrase_confirmed false "ring" (desk "pw\npw\nrest")
    obtain ⟨passphrase, settled, left, renews⟩ := (creates ⟨some "k", none⟩).finished later finished
    obtain ⟨alike, -⟩ := (settles _ passphrase).mp settled
    have answered : (Passphrases.lines (textBytes "pw\npw\nrest")).answers 2 = [.ok "pw", .ok "pw"] := rfl
    rw [answered, List.cons.injEq, Except.ok.injEq] at alike
    exact ⟨later, finished, left, alike.1 ▸ renews⟩
  · obtain ⟨creates, -, -, -, settles, -⟩ := new_passphrase_confirmed false "ring" (desk "one\ntwo\n")
    refine (creates ⟨some "k", none⟩).unsettled fun passphrase settled => ?_
    obtain ⟨alike, -⟩ := (settles _ passphrase).mp settled
    have answered : (Passphrases.lines (textBytes "one\ntwo\n")).answers 2 = [.ok "one", .ok "two"] := rfl
    rw [answered, List.cons.injEq, List.cons.injEq, Except.ok.injEq, Except.ok.injEq] at alike
    obtain ⟨rfl, two, -⟩ := alike
    revert two
    decide

end Confirming

end Session

end Keyring
