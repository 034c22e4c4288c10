import Keyring.Proofs.Rekeying
import Keyring.Proofs.Staging

namespace Keyring

open Keyring.Action

/-- One file is written whole at a path, for its owner only, and nothing else is touched. -/
structure Tree.Replaces (tree next : Tree) (path : String) (spot : Spot) (data : Bytes) : Prop where
  places : tree.Places path spot
  home : next.home = tree.home
  target : next.find? spot = some (.file data .ownerOnly)
  others : ∀ other, other ≠ spot → next.find? other = tree.find? other

theorem Tree.Replaces.of_place {tree next : Tree} {path : String} {data : Bytes} {fresh : Bool}
    (placed : tree.place path data fresh = .ok next) :
    ∃ spot, tree.Replaces next path spot data ∧ (fresh = true → tree.find? spot = none) := by
  obtain ⟨spot, places, free, rfl⟩ := place_eq_ok_iff.mp placed
  exact ⟨spot, ⟨places, home_put _ _ _, find?_put_self tree places.below, fun _ apart => find?_put_ne tree apart⟩, free⟩

namespace Desk

/-- What has changed neither a file nor the supply of random bytes. -/
structure Idle (start desk : Desk) : Prop where
  tree : desk.tree = start.tree
  supply : desk.world.supply = start.world.supply

theorem Idle.refl (desk : Desk) : Idle desk desk :=
  ⟨rfl, rfl⟩

section Idle

variable {α : Type} {start : Desk}

theorem idle_onWorld {action : Action CommandError α}
    (keeps : Keeps (fun world => world.supply = start.world.supply) action) : Keeps (Idle start) (onWorld action) := by
  intro desk given
  have kept := keeps desk.world given.supply
  unfold onWorld onPart
  cases ran : action desk.world with
  | ok value world =>
    rw [ran] at kept
    exact ⟨given.tree, kept⟩
  | error failure world =>
    rw [ran] at kept
    exact ⟨given.tree, kept⟩

theorem idle_onRing {action : RingAction α} (quiet : Quiet action) : Keeps (Idle start) (onRing action) :=
  idle_onWorld (.mapCause (quiet fun supply _ => supply = start.world.supply))

theorem idle_log (event : Event) : Keeps (Idle start) (log event) :=
  idle_onWorld (Quiet.log event fun supply _ => supply = start.world.supply)

theorem idle_print (text : String) : Keeps (Idle start) (print text) :=
  fun _ given => Keeps.ofExcept _ _ ⟨given.tree, given.supply⟩

theorem idle_note (text : String) : Keeps (Idle start) (note text) := by
  intro desk given
  rw [note_eq]
  exact Keeps.ofExcept _ _ ⟨given.tree, given.supply⟩

theorem idle_askPassphrase (prompt : String) : Keeps (Idle start) (askPassphrase prompt) := by
  intro desk given
  rw [askPassphrase_eq]
  refine Keeps.ofExcept _ _ ⟨given.tree, ?_⟩
  unfold asked
  dsimp only
  split
  · exact given.supply
  · exact given.supply

end Idle

theorem Opens.unique {desk : Desk} {path : String} {ring other : Ring} (opens : desk.Opens path ring)
    (again : desk.Opens path other) : ring = other := by
  obtain ⟨source, passphrase, found, answer, begun, ended, accepted⟩ := opens
  obtain ⟨_, _, foundToo, answerToo, begunToo, endedToo, acceptedToo⟩ := again
  cases found.symm.trans foundToo
  cases answer.symm.trans answerToo
  obtain ⟨last, read⟩ := (Ring.read_eq_ok_iff begun).mpr ((Ring.read_eq_ok_iff begunToo).mp ⟨endedToo, acceptedToo⟩)
  rw [accepted] at read
  cases read
  rfl

end Desk

namespace Request

def isCreate : Request → Bool
  | create _ _ => true
  | list _ _ | add _ _ _ | activate _ _ | rekey _ | inspect _ _ => false

/-- A request that only looks: it has nothing to change. -/
def Looks (desk : Desk) : Request → Prop
  | list _ _ | inspect _ _ => True
  | activate path id => ∃ ring, desk.Opens path ring ∧ ring.activeId = id
  | create _ _ | add _ _ _ | rekey _ => False

end Request

namespace Session

open Desk

section Looking

variable {start : Desk}

theorem idle_openRing (path : String) : Keeps (Idle start) (openRing path) := by
  unfold openRing
  refine .bind .get fun desk => .bind (.ofExcept _) fun source => .bind (idle_askPassphrase _) fun passphrase => ?_
  exact .bind (idle_onRing (Ring.quiet_read _ _)) fun ring => .bind (idle_log _) fun _ => .pure _

theorem idle_list (path : String) (showKeys : Bool) : Keeps (Idle start) (list path showKeys) :=
  .bind (idle_openRing path) fun _ => idle_print _

theorem idle_unlock (container : Container) : Keeps (Idle start) (unlock container) := by
  unfold unlock
  split
  case' h_1 => refine .bind (.pure _) fun wrappedKey => ?_
  case' h_2 => refine .bind (.throw _) fun wrappedKey => ?_
  all_goals
    refine .bind (idle_note _) fun _ => .bind (idle_askPassphrase _) fun passphrase => ?_
    refine .bind (idle_onWorld (.mapCause (.ofExcept _))) fun dataKey => ?_
    exact .bind (idle_note _) fun _ => .pure _

theorem idle_inspect (path : String) (decrypt : Bool) : Keeps (Idle start) (inspect path decrypt) := by
  unfold inspect
  refine .bind .get fun desk => .bind (.ofExcept _) fun source => .bind (.ofExcept _) fun data => ?_
  refine .bind (.ofExcept _) fun container => ?_
  dsimp only
  split
  case' isTrue =>
    rw [map_eq_pure_bind]
    refine .bind (.bind (idle_unlock container) fun dataKey => .pure _) fun dataKey => ?_
  case' isFalse => refine .bind (.pure none) fun dataKey => ?_
  all_goals
    refine .bind (idle_print _) fun _ => ?_
    split
    · exact .pure _
    · exact .throw _

/-- To make the active key active is to look only. -/
theorem activate_idle {path : String} {id : KeyId} {ring : Ring} {desk : Desk} (opens : desk.Opens path ring)
    (active : ring.activeId = id) : Idle desk (left (activate path id desk)) := by
  unfold activate
  have opening : Keeps (Idle desk) (openRing path) := idle_openRing path
  cases opened : openRing path desk with
  | error failure later =>
    rw [bind_of_error opened]
    exact opening.of_error (Idle.refl desk) opened
  | ok found between =>
    rw [bind_of_ok opened]
    obtain rfl := (openRing_opens opened).unique opens
    have idle := opening.of_ok (Idle.refl desk) opened
    refine Keeps.guard (fun _ => ?_) between idle
    rw [if_pos active]
    exact idle_note _

theorem run_idle (emptyOk : Bool) {request : Request} {desk : Desk} (looks : request.Looks desk) :
    Idle desk (left (run emptyOk request desk)) := by
  cases request with
  | list path showKeys => exact idle_list path showKeys desk (Idle.refl desk)
  | inspect path decrypt => exact idle_inspect path decrypt desk (Idle.refl desk)
  | activate path id =>
    obtain ⟨ring, opens, active⟩ := looks
    exact activate_idle opens active
  | create path choice => exact looks.elim
  | add path choice activates => exact looks.elim
  | rekey path => exact looks.elim

end Looking

/-- However a command ends, it ends in saving a ring, or before anything is saved. -/
def Concludes (start : Desk) (path : String) (fresh : Bool)
    (result : EStateM.Result (Failure CommandError) Desk Unit) : Prop :=
  Since start (left result) ∨
    ∃ ring between, ring.Sound ∧ Since start between ∧ result = save path ring fresh between

section Concluding

variable {start desk : Desk} {path : String} {fresh : Bool} (since : Since start desk)
include since

theorem Concludes.bind {α : Type} {action : DeskAction α} {next : α → DeskAction Unit}
    (orderly : Orderly (Since start) (fun _ => True) action)
    (rest : ∀ value between, action desk = .ok value between → Since start between →
      Concludes start path fresh (next value between)) : Concludes start path fresh ((action >>= next) desk) := by
  rcases orderly.bind_cases since next with ⟨_, _, failed, kept⟩ | ⟨value, between, ran, kept, same⟩
  · rw [failed]
    exact .inl kept
  · rw [same]
    exact rest value between ran kept

theorem Concludes.guard {p : Prop} [Decidable p] {failure : Failure CommandError} {rest : PUnit → DeskAction Unit}
    (passed : ¬ p → Concludes start path fresh (rest () desk)) :
    Concludes start path fresh ((if p then MonadExcept.throw failure >>= rest else rest ()) desk) := by
  by_cases stops : p
  · rw [if_pos stops]
    exact .inl since
  · rw [if_neg stops]
    exact passed stops

end Concluding

section Saving

variable {emptyOk : Bool} {path : String} {choice : KeyChoice} {desk : Desk}

theorem create_of_has (there : desk.tree.has path = true) :
    create emptyOk path choice desk = .error (.error (.alreadyThere path)) desk := by
  unfold create
  rw [bind_get, if_pos there]
  rfl

theorem create_concludes : Concludes desk path true (create emptyOk path choice desk) := by
  unfold create
  rw [bind_get]
  refine .guard (Since.refl desk) fun _ => ?_
  refine .bind (Since.refl desk) (orderly_newKey choice (fun _ => trivial) fun _ _ _ => trivial) fun key _ _ since => ?_
  refine .bind since (orderly_newPassphrase emptyOk) fun passphrase _ _ since => ?_
  refine .bind since (orderly_onWorld (Derivation.orderly_newAccessKey (fun _ => trivial) _)) ?_
  rintro ⟨accessKey, salt⟩ between salted since
  refine .bind since (orderly_onRing (Ring.orderly_new (fun _ => trivial) _)) fun ring founded founding since => ?_
  obtain ⟨_, salting, -⟩ := onWorld_done.mp salted
  obtain ⟨_, begun, -⟩ := onRing_done.mp founding
  obtain ⟨sound, -⟩ := Ring.Sound.of_new rfl (Derivation.salt_fits_of_newAccessKey salting) begun
  exact .inr ⟨ring, founded, sound, since, rfl⟩

theorem add_concludes {activates : Bool} : Concludes desk path false (add path choice activates desk) := by
  unfold add
  refine .bind (Since.refl desk) (orderly_newKey choice (fun _ => trivial) fun _ _ _ => trivial) fun key _ made since => ?_
  obtain ⟨-, nonempty, -⟩ := newKey_done made
  refine .bind since (orderly_openRing path) fun ring _ opened since => ?_
  refine .bind since (orderly_onRing (Ring.orderly_add ring nonempty fun _ => trivial)) ?_
  rintro ⟨id, next⟩ _ added since
  obtain ⟨_, adding, -⟩ := onRing_done.mp added
  obtain ⟨sound, has, -⟩ := (openRing_opens opened).sound.add adding
  refine .bind since (orderly_print _) fun _ printed _ since => ?_
  by_cases active : activates = true
  · rw [if_pos active]
    refine .bind since (orderly_onRing (Ring.orderly_activate has)) fun last _ activated since => ?_
    obtain ⟨_, activating, -⟩ := onRing_done.mp activated
    refine .bind since (orderly_print _) fun _ told _ since => ?_
    exact .inr ⟨last, told, (sound.activate activating).1, since, rfl⟩
  · rw [if_neg active]
    exact .inr ⟨next, printed, sound, since, rfl⟩

theorem activate_concludes {id : KeyId} : Concludes desk path false (activate path id desk) := by
  unfold activate
  refine .bind (Since.refl desk) (orderly_openRing path) fun ring between opened since => ?_
  refine .guard since fun has => ?_
  by_cases active : ring.activeId = id
  · rw [if_pos active]
    have telling : Orderly (Since desk) (fun _ => True) (note s!"Key id {id.toNat} is already active\n") := orderly_note _
    exact .inl (telling.keeps between since)
  · rw [if_neg active]
    have stored : ring.has id = true := by simpa using has
    refine .bind since (orderly_onRing (Ring.orderly_activate stored)) fun next _ activated since => ?_
    obtain ⟨_, activating, -⟩ := onRing_done.mp activated
    refine .bind since (orderly_print _) fun _ told _ since => ?_
    exact .inr ⟨next, told, ((openRing_opens opened).sound.activate activating).1, since, rfl⟩

theorem rekey_concludes : Concludes desk path false (rekey emptyOk path desk) := by
  unfold rekey
  refine .bind (Since.refl desk) (orderly_openRing path) fun ring _ opened since => ?_
  refine .bind since (orderly_newPassphrase emptyOk) fun passphrase _ _ since => ?_
  refine .bind since (orderly_onWorld (Derivation.orderly_newAccessKey (fun _ => trivial) _)) ?_
  rintro ⟨accessKey, salt⟩ _ salted since
  refine .bind since (orderly_onRing (Ring.orderly_rekey (fun _ => trivial) ring accessKey (some salt))) ?_
  intro next _ rekeyed since
  obtain ⟨_, salting, -⟩ := onWorld_done.mp salted
  obtain ⟨_, rekeying, -⟩ := onRing_done.mp rekeyed
  obtain ⟨sound, -⟩ := (openRing_opens opened).sound.rekey (Derivation.salt_fits_of_newAccessKey salting) rekeying
  refine .bind since (orderly_print _) fun _ told _ since => ?_
  exact .inr ⟨next, told, sound, since, rfl⟩

theorem run_concludes (emptyOk : Bool) (request : Request) (desk : Desk) :
    Concludes desk request.path request.isCreate (run emptyOk request desk) := by
  cases request with
  | create path choice => exact create_concludes
  | list path showKeys =>
    have orderly : Orderly (Since desk) (fun _ => True) (list path showKeys) := orderly_list path showKeys
    exact .inl (orderly.keeps desk (Since.refl desk))
  | add path choice activates => exact add_concludes
  | activate path id => exact activate_concludes
  | rekey path => exact rekey_concludes
  | inspect path decrypt =>
    have orderly : Orderly (Since desk) (fun _ => True) (inspect path decrypt) := orderly_inspect path decrypt
    exact .inl (orderly.keeps desk (Since.refl desk))

/-- What a command can have done to the tree when it has ended, whether it succeeded, failed or came to a fault. -/
theorem run_tree (emptyOk : Bool) (request : Request) (desk : Desk) :
    (left (run emptyOk request desk)).tree = desk.tree ∨
      ∃ (ring : Ring) (accessKey data : Bytes), ring.WellFormed accessKey ∧ ring.Writes data ∧
        desk.tree.place request.path data request.isCreate = .ok (left (run emptyOk request desk)).tree := by
  rcases run_concludes emptyOk request desk with since | ⟨ring, between, sound, since, saving⟩
  · exact .inl since.tree
  rw [saving, ← since.tree]
  rcases save_tree request.path ring request.isCreate between with same | ⟨data, ended, encoded, placed⟩
  · exact .inl same
  · obtain ⟨accessKey, formed⟩ := sound.formed
    obtain ⟨last, wrote⟩ := (Ring.write_eq_ok_iff between.world).mpr ⟨data, ⟨ended, encoded⟩, rfl⟩
    exact .inr ⟨ring, accessKey, data, formed, ⟨.boundless, _, between.world, last, wrote⟩, placed⟩

/-- A command touches no file but its own, and that one it replaces whole or not at all, however it ends. Commands that
only look leave everything as it is and draw no random bytes. What is there already is not created, also if it came to
be there after the command had looked. The new file that is made on the way to saving is gone at the end. -/
theorem run_touches_target (emptyOk : Bool) (request : Request) (desk : Desk) :
    ((left (run emptyOk request desk)).tree = desk.tree ∨
      ∃ (spot : Spot) (ring : Ring) (accessKey data : Bytes),
        desk.tree.Replaces (left (run emptyOk request desk)).tree request.path spot data ∧
        ring.WellFormed accessKey ∧ ring.Writes data ∧
        (∀ credential : Credential, credential.key ring.salt = accessKey → Ring.ReadsAs data credential ring) ∧
        (request.isCreate = true → desk.tree.find? spot = none)) ∧
    (request.Looks desk → (left (run emptyOk request desk)).tree = desk.tree ∧
      (left (run emptyOk request desk)).world.supply = desk.world.supply) ∧
    (request.isCreate = true → desk.tree.has request.path = true →
      run emptyOk request desk = .error (.error (.alreadyThere request.path)) desk) ∧
    (∀ between ring, between.tree.has request.path = true → ∃ failure later,
      save request.path ring true between = .error failure later ∧ later.tree = between.tree) ∧
    ((left (run emptyOk request desk)).tree = desk.tree ∨
      ∃ ring between, between.tree = desk.tree ∧ ∀ temp, desk.tree.find? temp = none →
        run emptyOk request desk = saveStaged temp id request.path ring request.isCreate between) ∧
    ∀ temp others between ring, between.tree.find? temp = none →
      (∀ content, ((others (between.tree.put temp (.file content .ownerOnly))).remove temp).has request.path = true) →
      ∃ failure later, saveStaged temp others request.path ring true between = .error failure later ∧
        (later.tree = between.tree ∨
          ∃ content, later.tree = (others (between.tree.put temp (.file content .ownerOnly))).remove temp) := by
  refine ⟨?_, ?_, ?_, fun _ _ => save_of_has, ?_, fun _ _ _ _ => saveStaged_forestalled⟩
  · rcases run_tree emptyOk request desk with same | ⟨ring, accessKey, data, formed, written, placed⟩
    · exact .inl same
    · obtain ⟨spot, replaces, free⟩ := Tree.Replaces.of_place placed
      refine .inr ⟨spot, ring, accessKey, data, replaces, formed, written, ?_, free⟩
      rintro credential rfl
      exact written.reads formed
  · intro looks
    have idle := run_idle emptyOk looks
    exact ⟨idle.tree, idle.supply⟩
  · intro creates there
    cases request with
    | create path choice => exact create_of_has there
    | list path showKeys => cases creates
    | add path choice activates => cases creates
    | activate path id => cases creates
    | rekey path => cases creates
    | inspect path decrypt => cases creates
  · rcases run_concludes emptyOk request desk with since | ⟨ring, between, -, since, saving⟩
    · exact .inl since.tree
    · refine .inr ⟨ring, between, since.tree, fun temp free => ?_⟩
      rw [saving, saveStaged_eq (since.tree ▸ free)]

end Saving

end Session

end Keyring
