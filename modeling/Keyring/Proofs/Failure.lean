import Keyring.Proofs.Faults
import Keyring.Proofs.Steps

namespace Keyring

open Keyring.Action

/-- A change of state that an outcome follows is in order if the change keeps what holds. -/
theorem Action.Orderly.update {σ ε α : Type} {holds : σ → Prop} {allowed : Fault → Prop} {action : ActionOn σ ε α}
    (change : σ → σ) (outcome : σ → Except ε α)
    (same : ∀ state, action state = Action.ofExcept (outcome state) (change state))
    (keeps : ∀ state, holds state → holds (change state)) : Orderly holds allowed action where
  keeps := by
    intro before given
    rw [same]
    exact Keeps.ofExcept _ _ (keeps before given)
  faults := by
    intro before fault after given failed
    rw [same] at failed
    exact (Orderly.ofExcept (outcome before)).faults (keeps before given) failed

namespace Desk

/-- What stays as it was at the start, as long as nothing is saved. -/
structure Since (start desk : Desk) : Prop where
  tree : desk.tree = start.tree
  limit : desk.world.Limited start.world.supply.limit
  notes : start.noteRoom = none → desk.noteRoom = none

theorem Since.refl (desk : Desk) : Since desk desk :=
  ⟨rfl, rfl, id⟩

section Steps

variable {α : Type} {start : Desk} {allowed : Fault → Prop}

theorem orderly_onWorld {action : Action CommandError α}
    (orderly : Orderly (World.Limited start.world.supply.limit) allowed action) :
    Orderly (Since start) allowed (onWorld action) where
  keeps := by
    intro desk given
    have kept := orderly.keeps desk.world given.limit
    unfold onWorld onPart
    cases ran : action desk.world with
    | ok value world =>
      rw [ran] at kept
      exact ⟨given.tree, kept, given.notes⟩
    | error failure world =>
      rw [ran] at kept
      exact ⟨given.tree, kept, given.notes⟩
  faults := by
    intro desk fault after given failed
    obtain ⟨world, failed, -⟩ := onWorld_failed.mp failed
    exact orderly.faults given.limit failed

theorem orderly_onRing {action : RingAction α}
    (orderly : Orderly (World.Limited start.world.supply.limit) allowed action) :
    Orderly (Since start) allowed (onRing action) :=
  orderly_onWorld orderly.mapCause

theorem orderly_log (event : Event) : Orderly (Since start) allowed (log event) :=
  orderly_onWorld (World.orderly_log event)

theorem orderly_print (text : String) : Orderly (Since start) allowed (print text) :=
  .update
    (fun desk => { desk with
      answerRoom := (send desk.answerRoom (textBytes text)).2.1
      world := { desk.world with
        trace := desk.world.trace.push (.printed (send desk.answerRoom (textBytes text)).1) } })
    (fun desk => (send desk.answerRoom (textBytes text)).2.2) (fun _ => rfl)
    fun _ given => ⟨given.tree, given.limit, given.notes⟩

theorem orderly_note (text : String) : Orderly (Since start) allowed (note text) := by
  refine .update (noted text) _ (note_eq text) fun desk given => ⟨given.tree, given.limit, fun boundless => ?_⟩
  rw [noted, given.notes boundless]
  rfl

theorem orderly_askPassphrase (prompt : String) : Orderly (Since start) allowed (askPassphrase prompt) := by
  refine .update (asked prompt) _ (askPassphrase_eq prompt) fun desk given => ⟨given.tree, ?_, given.notes⟩
  unfold asked
  dsimp only
  split
  · exact given.limit
  · exact given.limit

theorem orderly_newPassphrase (emptyOk : Bool) : Orderly (Since start) allowed (newPassphrase emptyOk) := by
  unfold newPassphrase
  refine .bind (orderly_askPassphrase _) fun passphrase => Orderly.guard fun _ => .bind .get fun desk => ?_
  refine .ite (fun _ => ?_) fun _ => .pure _
  exact .bind (orderly_askPassphrase _) fun again => Orderly.guard fun _ => .pure _

/-- A new key takes as many random bytes as were asked for. -/
theorem orderly_newKey (choice : KeyChoice) (short : start.world.supply.limit ≠ none → allowed .randomness)
    (long : ∀ length ∈ choice.random, lengthLimit ≤ length → allowed .lengthOverflow) :
    Orderly (Since start) allowed (newKey choice) := by
  unfold newKey
  split
  · exact .ite (fun _ => .fail _) fun _ => .pure _
  · exact .fail _
  case h_3 length positive noText random =>
    refine .bind (orderly_onWorld (Ring.orderly_randomKey short positive (long length random))) fun key => ?_
    exact .bind (orderly_note _) fun _ => .pure _
  · exact .fail _

end Steps

section Given

variable {desk later : Desk}

/-- The path leads to a keyring that the next passphrase opens. -/
def Opens (desk : Desk) (path : String) (ring : Ring) : Prop :=
  ∃ source passphrase, desk.tree.source path = .ok source ∧ desk.passphrases.next.1 = .ok passphrase ∧
    ∃ begun ended, Ring.read source (.passphrase passphrase) begun = .ok ring ended

theorem Opens.congr {path : String} {ring : Ring} (opens : later.Opens path ring) (tree : later.tree = desk.tree)
    (passphrases : later.passphrases = desk.passphrases) : desk.Opens path ring := by
  unfold Opens at opens ⊢
  rw [← tree, ← passphrases]
  exact opens

end Given

end Desk

namespace Session

open Desk

section Steps

variable {start : Desk} {allowed : Fault → Prop}

theorem orderly_openRing (path : String) : Orderly (Since start) allowed (openRing path) := by
  unfold openRing
  refine .bind .get fun desk => .bind (.ofExcept _) fun source => .bind (orderly_askPassphrase _) fun passphrase => ?_
  exact .bind (orderly_onRing (Ring.orderly_read _ _)) fun ring => .bind (orderly_log _) fun _ => .pure _

theorem orderly_list (path : String) (showKeys : Bool) : Orderly (Since start) allowed (list path showKeys) :=
  .bind (orderly_openRing path) fun _ => orderly_print _

theorem orderly_unlock (container : Container) : Orderly (Since start) allowed (unlock container) := by
  unfold unlock
  split
  case' h_1 => refine .bind (.pure _) fun wrappedKey => ?_
  case' h_2 => refine .bind (.fail _) fun wrappedKey => ?_
  all_goals
    refine .bind (orderly_note _) fun _ => .bind (orderly_askPassphrase _) fun passphrase => ?_
    refine .bind (orderly_onWorld (.mapCause (.ofExcept _))) fun dataKey => ?_
    exact .bind (orderly_note _) fun _ => .pure _

theorem orderly_inspect (path : String) (decrypt : Bool) : Orderly (Since start) allowed (inspect path decrypt) := by
  unfold inspect
  refine .bind .get fun desk => .bind (.ofExcept _) fun source => .bind (.ofExcept _) fun data => ?_
  refine .bind (.ofExcept _) fun container => ?_
  dsimp only
  split
  case' isTrue =>
    rw [map_eq_pure_bind]
    refine .bind (.bind (orderly_unlock container) fun dataKey => .pure _) fun dataKey => ?_
  case' isFalse => refine .bind (.pure none) fun dataKey => ?_
  all_goals
    refine .bind (orderly_print _) fun _ => ?_
    split
    · exact .pure _
    · exact .fail _

end Steps

section Looking

variable {path : String} {desk later : Desk}

theorem list_keeps {showKeys : Bool} (finished : list path showKeys desk = .ok () later) : later.tree = desk.tree := by
  have orderly : Orderly (Since desk) (fun _ => True) (list path showKeys) := orderly_list path showKeys
  exact (orderly.keeps.of_ok (Since.refl desk) finished).tree

theorem inspect_keeps {decrypt : Bool} (finished : inspect path decrypt desk = .ok () later) :
    later.tree = desk.tree := by
  have orderly : Orderly (Since desk) (fun _ => True) (inspect path decrypt) := orderly_inspect path decrypt
  exact (orderly.keeps.of_ok (Since.refl desk) finished).tree

end Looking

theorem openRing_opens {path : String} {ring : Ring} {desk later : Desk}
    (opened : openRing path desk = .ok ring later) : desk.Opens path ring := by
  simp only [openRing, bind_eq_ok, get_eq_ok, ofFile_eq_ok, pure_eq_ok] at opened
  obtain ⟨_, _, ⟨rfl, rfl⟩, source, _, ⟨found, rfl⟩, passphrase, _, answered, _, _, delivered, _, _, -, rfl, -⟩ :=
    opened
  rw [askPassphrase_eq] at answered
  obtain ⟨answer, -⟩ := ofExcept_eq_ok.mp answered
  obtain ⟨_, read, -⟩ := onRing_done.mp delivered
  exact ⟨source, passphrase, found, answer, _, _, read⟩

end Session

namespace Request

/-- The length of the random key that is asked for. -/
def random? : Request → Option Nat
  | create _ choice | add _ choice _ => choice.random
  | list _ _ | activate _ _ | rekey _ | inspect _ _ => none

/-- The size of the sealed bundle that a request leads to. -/
def LeadsTo (desk : Desk) (size : Nat) : Request → Prop
  | create _ choice => size = 56 + (choice.bytes desk.world.supply).length
  | add path choice _ =>
    ∃ ring, desk.Opens path ring ∧ size = ring.sealedSize + 8 + (choice.bytes desk.world.supply).length
  | activate path _ | rekey path => ∃ ring, desk.Opens path ring ∧ size = ring.sealedSize
  | list _ _ | inspect _ _ => False

/-- The faults that a request can come to. -/
inductive Provokes (request : Request) (desk : Desk) : Fault → Prop
  | supply (limited : desk.world.supply.limit ≠ none) : Provokes request desk .randomness
  | length {length : Nat} (asked : length ∈ request.random?) (long : lengthLimit ≤ length) :
    Provokes request desk .lengthOverflow
  | ids {path : String} {choice : KeyChoice} {activates : Bool} {ring : Ring}
    (adds : request = .add path choice activates) (opens : desk.Opens path ring) (last : ring.maxId = Ring.maxKeyId) :
    Provokes request desk .idsExhausted
  | size {size length : Nat} (leads : request.LeadsTo desk size) (big : max24 < length) (inside : length ≤ size) :
    Provokes request desk (.packetTooBig length)

/-- A ring that a request has led to and that is about to be saved. -/
structure Brings (request : Request) (desk : Desk) (ring : Ring) : Prop where
  sound : ring.Sound
  leads : request.LeadsTo desk ring.sealedSize

end Request

namespace Desk

variable {desk later : Desk}

theorem Opens.sound {path : String} {ring : Ring} (opens : desk.Opens path ring) : ring.Sound := by
  obtain ⟨_, _, -, -, _, _, accepted⟩ := opens
  exact .of_read accepted

theorem note_failed {text : String} {failure : Failure CommandError} (failed : note text desk = .error failure later) :
    failure = .error (.io refusal) ∧ desk.noteRoom ≠ none ∧ later.tree = desk.tree := by
  rw [note_eq] at failed
  obtain ⟨cause, refused, rfl, rfl⟩ := ofExcept_eq_error.mp failed
  unfold send Sink.take at refused
  cases room : desk.noteRoom with
  | none =>
    rw [room] at refused
    cases refused
  | some count =>
    rw [room] at refused
    dsimp only at refused
    split at refused
    · cases refused
      exact ⟨rfl, by simp, rfl⟩
    · cases refused

/-- A stream that is full takes no text. -/
theorem note_refused {text : String} (full : desk.noteRoom = some 0) (something : textBytes text ≠ []) :
    note text desk = .error (.error (.io refusal)) (noted text desk) := by
  have short : 0 < (textBytes text).length := List.length_pos_of_ne_nil something
  have refused : (send desk.noteRoom (textBytes text)).2.2 = .error (.io refusal) := by
    rw [full]
    simp only [send, Sink.take, if_pos short]
    rfl
  rw [note_eq, refused]
  rfl

end Desk

namespace Session

open Desk

section Saving

variable {path : String} {ring : Ring} {fresh : Bool} {desk later : Desk} {failure : Failure CommandError}

/-- Saving that fails has changed nothing, or the file stands and only the note about it was refused. -/
theorem save_failed (failed : save path ring fresh desk = .error failure later) :
    (later.tree = desk.tree ∧ ∀ fault, failure = .fault fault →
        ∃ ended, ring.encode desk.world = .error (.fault fault) ended) ∨
      failure = .error (.io refusal) ∧ desk.noteRoom ≠ none ∧
        ∃ data ended, ring.encode desk.world = .ok data ended ∧ desk.tree.place path data fresh = .ok later.tree := by
  unfold save at failed
  rw [bind_get] at failed
  rcases ofExcept_bind_eq_error.mp failed with ⟨_, -, rfl, rfl⟩ | ⟨_, -, failed⟩
  · exact .inl ⟨rfl, nofun⟩
  rcases bind_eq_error.mp failed with early | ⟨delivery, _, delivered, failed⟩
  · obtain ⟨world, stopped, rfl⟩ := onWorld_failed.mp early
    refine .inl ⟨rfl, ?_⟩
    rintro fault rfl
    exact Ring.write_fault (mapCause_eq_fault.mp stopped)
  obtain ⟨world, wrote, rfl⟩ := onRing_done.mp delivered
  obtain ⟨data, ⟨_, encoded⟩, rfl⟩ := (Ring.write_eq_ok_iff _).mp ⟨_, wrote⟩
  rcases ofExcept_bind_eq_error.mp failed with ⟨_, -, rfl, rfl⟩ | ⟨written, -, failed⟩
  · exact .inl ⟨rfl, nofun⟩
  rcases ofExcept_bind_eq_error.mp failed with ⟨_, -, rfl, rfl⟩ | ⟨next, placed, failed⟩
  · exact .inl ⟨rfl, nofun⟩
  -- The file stands. What is left to do is to tell so.
  rcases bind_eq_error.mp failed with early | ⟨_, _, modified, failed⟩
  · cases early
  cases modified
  rcases bind_eq_error.mp failed with early | ⟨_, _, logged, failed⟩
  · cases early
  cases logged
  obtain ⟨rfl, bounded, tree⟩ := note_failed failed
  refine .inr ⟨rfl, bounded, data, _, encoded, ?_⟩
  rw [tree]
  exact Outcome.mapError_eq_ok.mp placed

end Saving

/-- How far a request came that failed: it had done nothing that lasts, or it was about to save what it had made. -/
def Fails (request : Request) (start : Desk) (failure : Failure CommandError) (later : Desk) : Prop :=
  (Since start later ∧ ∀ fault, failure = .fault fault → request.Provokes start fault) ∨
    ∃ ring fresh between, request.Brings start ring ∧ Since start between ∧
      save request.path ring fresh between = .error failure later

section Failing

variable {path : String} {choice : KeyChoice} {emptyOk : Bool} {desk later : Desk} {failure : Failure CommandError}

theorem orderly_newKey_of {request : Request} (random : request.random? = choice.random) :
    Orderly (Since desk) (request.Provokes desk) (newKey choice) :=
  orderly_newKey choice .supply fun _ asked long => .length (random ▸ asked) long

theorem create_fails (failed : create emptyOk path choice desk = .error failure later) :
    Fails (.create path choice) desk failure later := by
  let request : Request := .create path choice
  have short : desk.world.supply.limit ≠ none → request.Provokes desk .randomness := .supply
  unfold create at failed
  rw [bind_get] at failed
  rcases Orderly.guard_error (Since.refl desk) failed with early | ⟨-, failed⟩
  · exact .inl early
  have newKeyFails : Orderly (Since desk) (request.Provokes desk) (newKey choice) := orderly_newKey_of rfl
  rcases newKeyFails.bind_error (Since.refl desk) failed with early | ⟨key, _, made, since, failed⟩
  · exact .inl early
  obtain ⟨rfl, -, -⟩ := newKey_done made
  rcases (orderly_newPassphrase emptyOk).bind_error since failed with early | ⟨passphrase, _, -, since, failed⟩
  · exact .inl early
  rcases (orderly_onWorld (Derivation.orderly_newAccessKey short _)).bind_error since failed with
    early | ⟨⟨accessKey, salt⟩, _, salted, since, failed⟩
  · exact .inl early
  rcases (orderly_onRing (Ring.orderly_new short _)).bind_error since failed with
    early | ⟨ring, founded, founding, since, failed⟩
  · exact .inl early
  obtain ⟨_, salting, -⟩ := onWorld_done.mp salted
  obtain ⟨_, begun, -⟩ := onRing_done.mp founding
  have saltFits := Derivation.salt_fits_of_newAccessKey salting
  obtain ⟨sound, size⟩ := Ring.Sound.of_new rfl saltFits begun
  exact .inr ⟨ring, true, founded, ⟨sound, size⟩, since, failed⟩

theorem add_fails {activates : Bool} (failed : add path choice activates desk = .error failure later) :
    Fails (.add path choice activates) desk failure later := by
  let request : Request := .add path choice activates
  have short : desk.world.supply.limit ≠ none → request.Provokes desk .randomness := .supply
  unfold add at failed
  have newKeyFails : Orderly (Since desk) (request.Provokes desk) (newKey choice) := orderly_newKey_of rfl
  rcases newKeyFails.bind_error (Since.refl desk) failed with early | ⟨key, keyed, made, since, failed⟩
  · exact .inl early
  obtain ⟨rfl, nonempty, same⟩ := newKey_done made
  have sameTree := since.tree
  rcases (orderly_openRing path).bind_error since failed with early | ⟨ring, _, opened, since, failed⟩
  · exact .inl early
  -- The key is made before the file is opened, but neither the tree nor the passphrases have changed by then.
  have opens : desk.Opens path ring := (openRing_opens opened).congr sameTree same
  have full : ring.maxId = Ring.maxKeyId → request.Provokes desk .idsExhausted := .ids rfl opens
  rcases (orderly_onRing (Ring.orderly_add ring nonempty full)).bind_error since failed with
    early | ⟨⟨id, next⟩, _, added, since, failed⟩
  · exact .inl early
  obtain ⟨_, adding, -⟩ := onRing_done.mp added
  obtain ⟨sound, has, size⟩ := opens.sound.add adding
  rcases (orderly_print _).bind_error since failed with early | ⟨_, _, -, since, failed⟩
  · exact .inl early
  rcases ite_eq_error.mp failed with ⟨-, failed⟩ | ⟨-, failed⟩
  · rcases (orderly_onRing (Ring.orderly_activate has)).bind_error since failed with
      early | ⟨last, _, activated, since, failed⟩
    · exact .inl early
    obtain ⟨_, activating, -⟩ := onRing_done.mp activated
    obtain ⟨soundLast, same⟩ := sound.activate activating
    rcases (orderly_print _).bind_error since failed with early | ⟨_, _, -, since, failed⟩
    · exact .inl early
    exact .inr ⟨last, false, _, ⟨soundLast, ring, opens, same.trans size⟩, since, failed⟩
  · exact .inr ⟨next, false, _, ⟨sound, ring, opens, size⟩, since, failed⟩

theorem activate_fails {id : KeyId} (failed : activate path id desk = .error failure later) :
    Fails (.activate path id) desk failure later := by
  unfold activate at failed
  rcases (orderly_openRing path).bind_error (Since.refl desk) failed with early | ⟨ring, _, opened, since, failed⟩
  · exact .inl early
  have opens := openRing_opens opened
  rcases Orderly.guard_error since failed with early | ⟨has, failed⟩
  · exact .inl early
  rcases ite_eq_error.mp failed with ⟨-, failed⟩ | ⟨-, failed⟩
  · exact .inl ((orderly_note _).of_error since failed)
  have stored : ring.has id = true := by simpa using has
  rcases (orderly_onRing (Ring.orderly_activate stored)).bind_error since failed with
    early | ⟨next, _, activated, since, failed⟩
  · exact .inl early
  obtain ⟨_, activating, -⟩ := onRing_done.mp activated
  obtain ⟨sound, size⟩ := opens.sound.activate activating
  rcases (orderly_print _).bind_error since failed with early | ⟨_, _, -, since, failed⟩
  · exact .inl early
  exact .inr ⟨next, false, _, ⟨sound, ring, opens, size⟩, since, failed⟩

theorem rekey_fails (failed : rekey emptyOk path desk = .error failure later) :
    Fails (.rekey path) desk failure later := by
  let request : Request := .rekey path
  have short : desk.world.supply.limit ≠ none → request.Provokes desk .randomness := .supply
  unfold rekey at failed
  rcases (orderly_openRing path).bind_error (Since.refl desk) failed with early | ⟨ring, _, opened, since, failed⟩
  · exact .inl early
  have opens := openRing_opens opened
  rcases (orderly_newPassphrase emptyOk).bind_error since failed with early | ⟨passphrase, _, -, since, failed⟩
  · exact .inl early
  rcases (orderly_onWorld (Derivation.orderly_newAccessKey short _)).bind_error since failed with
    early | ⟨⟨newKey, salt⟩, _, salted, since, failed⟩
  · exact .inl early
  rcases (orderly_onRing (Ring.orderly_rekey short ring newKey (some salt))).bind_error since failed with
    early | ⟨next, _, rekeyed, since, failed⟩
  · exact .inl early
  obtain ⟨_, salting, -⟩ := onWorld_done.mp salted
  obtain ⟨_, rekeying, -⟩ := onRing_done.mp rekeyed
  obtain ⟨sound, size⟩ := opens.sound.rekey (Derivation.salt_fits_of_newAccessKey salting) rekeying
  rcases (orderly_print _).bind_error since failed with early | ⟨_, _, -, since, failed⟩
  · exact .inl early
  exact .inr ⟨next, false, _, ⟨sound, ring, opens, size⟩, since, failed⟩

theorem run_fails {request : Request} (failed : run emptyOk request desk = .error failure later) :
    Fails request desk failure later := by
  cases request with
  | create path choice => exact create_fails failed
  | list path showKeys => exact .inl ((orderly_list path showKeys).of_error (Since.refl desk) failed)
  | add path choice activates => exact add_fails failed
  | activate path id => exact activate_fails failed
  | rekey path => exact rekey_fails failed
  | inspect path decrypt => exact .inl ((orderly_inspect path decrypt).of_error (Since.refl desk) failed)

/-- Where notes always go out, a command that fails leaves the tree as it is. -/
theorem run_spares {request : Request} (failed : run emptyOk request desk = .error failure later)
    (boundless : desk.noteRoom = none) : later.tree = desk.tree := by
  rcases run_fails failed with ⟨since, -⟩ | ⟨ring, fresh, between, -, since, failed⟩
  · exact since.tree
  rcases save_failed failed with ⟨same, -⟩ | ⟨-, bounded, -⟩
  · exact same.trans since.tree
  · exact absurd (since.notes boundless) bounded

end Failing

end Session

end Keyring
