import Keyring.Proofs.Frame
import Keyring.Proofs.Unlocking

namespace Keyring

open Keyring.Action

/-- The salt for which a credential was asked, if the mark tells of that. -/
def Mark.asked? : Mark → Option Bytes
  | asked salt => some salt
  | _ => none

/-- The salts for which a credential was asked, in the order in which that was done. -/
def World.askings (world : World) : List Bytes :=
  world.trace.toList.filterMap Mark.asked?

theorem World.askings_push (supply : Supply) (trace : Array Mark) (mark : Mark) :
    World.askings ⟨supply, trace.push mark⟩ = World.askings ⟨supply, trace⟩ ++ mark.asked?.toList := by
  cases known : mark.asked? <;> simp [askings, known]

namespace Source

variable {chunks : List Bytes}

/-- Chunks that hold something are put together, unless the call after them fails. -/
theorem contents_of_chunks (something : ∀ chunk ∈ chunks, chunk ≠ []) (failure : Option IoFailure) :
    contents ⟨chunks, failure⟩ =
      match failure with
      | none => .ok chunks.flatten
      | some failure => .error failure := by
  have noEnd : ¬ chunks.any List.isEmpty := by
    simpa using fun empty => something [] empty rfl
  rw [contents, if_neg noEnd]
  cases failure with
  | none => exact congrArg _ (joined_eq_flatten chunks)
  | some failure => rfl

end Source

namespace Action

variable {ε α β : Type} {salt : Bytes}

/-- An action that asks no credential. -/
def Unasking (action : Action ε α) : Prop :=
  ∀ salts, Keeps (fun world => world.askings = salts) action

theorem Telling.unasking {action : Action ε α} (telling : Telling action) : Unasking action := by
  intro salts
  refine telling _ fun world event given => ?_
  rw [World.askings_push]
  exact (List.append_nil _).trans given

/-- An action that asks a credential once, whether it finishes or fails. -/
def Asking (salt : Bytes) (action : Action ε α) : Prop :=
  ∀ before, (left (action before)).askings = before.askings ++ [salt]

theorem Asking.bind {action : Action ε α} {next : α → Action ε β} (asking : Asking salt action)
    (unasking : ∀ value, Unasking (next value)) : Asking salt (action >>= next) := by
  intro before
  have asked := asking before
  cases ran : action before with
  | ok value between =>
    rw [ran] at asked
    rw [bind_of_ok ran]
    exact unasking value _ between asked
  | error failure between =>
    rw [ran] at asked
    rw [bind_of_error ran]
    exact asked

theorem Asking.record (salt : Bytes) : Asking salt (record (.asked salt) : Action ε Unit) :=
  fun before => World.askings_push before.supply before.trace (.asked salt)

end Action

namespace Ring

theorem telling_find (source : Source) : Telling (find source) := by
  intro holds told
  unfold find
  refine .bind (.ofExcept _) fun data => ?_
  refine .bind (telling_parseSupported data holds told) fun container => ?_
  refine .bind (telling_inspect [] container.packets holds told) fun _ => ?_
  refine .bind (telling_required .dataKey container.packets holds told) fun wrappedKey => ?_
  exact .bind (telling_required .bundle container.packets holds told) fun sealedBundle => .pure _

theorem asking_ask (credential : Credential) (salt : Bytes) : Asking salt (ask credential salt) := by
  refine .bind (.record salt) fun _ salts => ?_
  exact .bind (.ite (.pure ()) (.throw _)) fun _ => .pure _

namespace Found

variable (found : Found) (credential : Credential)

/-- What was found is opened with one asking. -/
theorem asking_unlock : Asking found.salt (found.unlock credential) := by
  refine .bind (asking_ask credential found.salt) fun accessKey salts => ?_
  refine .bind (.ofExcept _) fun dataKey => Keeps.guard fun _ => ?_
  refine .bind (.ofExcept _) fun plain => ?_
  refine .bind ((Bundle.telling_decode plain).unasking salts) fun bundle => ?_
  exact .bind ((Telling.log _).unasking salts) fun _ => .pure _

/-- Nothing counts of a credential but its key for the salt that was found. -/
theorem unlock_congr {other : Credential} (same : other.key found.salt = credential.key found.salt) :
    found.unlock other = found.unlock credential := by
  unfold Found.unlock openLayers ask
  rw [same]

end Found

section Reading

variable {source : Source} {found : Found} {begun between : World}

theorem read_congr {other : Source} (same : other.contents = source.contents) (credential : Credential) :
    read other credential = read source credential := by
  rw [read, same]
  rfl

/-- Nothing is done with a source that fails. -/
theorem read_of_failure {failure : IoFailure} (contents : source.contents = .error failure) (credential : Credential)
    (begun : World) : read source credential begun = .error (.error (.io failure)) begun := by
  have failed : (Action.ofExcept (source.contents.mapError .io) : RingAction Bytes) begun =
      .error (.error (.io failure)) begun := by
    rw [contents]
    rfl
  rw [read, bind_of_error failed]

theorem askings_of_found (ran : find source begun = .ok found between) (credential : Credential) :
    (left (read source credential begun)).askings = begun.askings ++ [found.salt] := by
  have kept : between.askings = begun.askings := ((telling_find source).unasking _).of_ok rfl ran
  rw [read_eq_find, bind_of_ok ran, found.asking_unlock credential between, kept]

theorem askings_of_unfound {failure : Failure RingError} (ran : find source begun = .error failure between)
    (credential : Credential) : (left (read source credential begun)).askings = begun.askings := by
  rw [read_eq_find, bind_of_error ran]
  exact ((telling_find source).unasking _).of_error rfl ran

/-- What is found in chunks that hold something is what the bytes in them, put together, are. -/
theorem find_of_chunks {chunks : List Bytes} (something : ∀ chunk ∈ chunks, chunk ≠ []) (failure : Option IoFailure)
    (found : Found) (begun : World) :
    (∃ later, find ⟨chunks, failure⟩ begun = .ok found later) ↔
      failure = none ∧ Container.parse chunks.flatten = .ok found.container ∧
        found.container.Holds found.salt found.wrappedKey found.sealedBundle := by
  rw [find_eq_ok_iff, Source.contents_of_chunks something]
  cases failure <;> simp

end Reading

/-- A credential is asked once, for the salt of a container that is in order, or not at all. -/
theorem read_asks (chunks : List Bytes) (failure : Option IoFailure) (credential : Credential) (begun : World)
    (something : ∀ chunk ∈ chunks, chunk ≠ []) :
    (∃ asked : List Bytes,
      (left (read ⟨chunks, failure⟩ credential begun)).askings = begun.askings ++ asked ∧
      asked.length ≤ 1 ∧
      (∀ salt, asked = [salt] ↔ failure = none ∧ ∃ container wrappedKey sealedBundle,
        Container.parse chunks.flatten = .ok container ∧ container.Holds salt wrappedKey sealedBundle) ∧
      ∀ other : Credential, (∀ salt ∈ asked, other.key salt = credential.key salt) →
        read ⟨chunks, failure⟩ other begun = read ⟨chunks, failure⟩ credential begun) ∧
    read ⟨chunks, failure⟩ credential begun =
      match failure with
      | none => read (.ofBytes chunks.flatten) credential begun
      | some failure => .error (.error (.io failure)) begun := by
  have inOrder := fun found => find_of_chunks something failure found begun
  refine ⟨?_, ?_⟩
  · cases ran : find ⟨chunks, failure⟩ begun with
    | ok found between =>
      obtain ⟨whole, parsed, holds⟩ := (inOrder found).mp ⟨between, ran⟩
      refine ⟨[found.salt], askings_of_found ran credential, Nat.le_refl 1, fun salt => ⟨?_, ?_⟩, fun other same => ?_⟩
      · intro same
        cases same
        exact ⟨whole, _, _, _, parsed, holds⟩
      · rintro ⟨-, container, wrappedKey, sealedBundle, parsedToo, holdsToo⟩
        obtain ⟨_, ranToo⟩ := (inOrder ⟨container, salt, wrappedKey, sealedBundle⟩).mpr ⟨whole, parsedToo, holdsToo⟩
        cases ran.symm.trans ranToo
        rfl
      · rw [read_eq_find, read_eq_find, bind_of_ok ran, bind_of_ok ran,
          found.unlock_congr credential (same _ List.mem_cons_self)]
    | error cause between =>
      have nothing := askings_of_unfound ran credential
      refine ⟨[], nothing.trans (List.append_nil _).symm, Nat.zero_le 1, fun salt => ⟨nofun, ?_⟩, fun other _ => ?_⟩
      · rintro ⟨whole, container, wrappedKey, sealedBundle, parsed, holds⟩
        obtain ⟨_, done⟩ := (inOrder ⟨container, salt, wrappedKey, sealedBundle⟩).mpr ⟨whole, parsed, holds⟩
        cases ran.symm.trans done
      · rw [read_eq_find, read_eq_find, bind_of_error ran, bind_of_error ran]
  · have contents := Source.contents_of_chunks something failure
    cases failure with
    | none => rw [read_congr (contents.trans (Source.contents_ofBytes _).symm) credential]
    | some failure => exact read_of_failure contents credential begun

/-- A salt is asked for wherever the bytes around it are parted. -/
theorem read_asks_parted :
    let chunks : List Bytes := [[0xec, 1, 0], [0, 3, 0, 0, 1], [7, 2, 0, 0, 0, 6, 0], [0, 0]]
    (∀ chunk ∈ chunks, chunk ≠ []) ∧
      (left (read ⟨chunks, none⟩ (.fixed ⟨[]⟩) (worldFrom []))).askings = [[7]] := by
  intro chunks
  have something : ∀ chunk ∈ chunks, chunk ≠ [] := by decide
  let container : Container := ⟨.current, [⟨.salt, [7]⟩, ⟨.dataKey, []⟩, ⟨.bundle, []⟩]⟩
  have parsed : Container.parse chunks.flatten = .ok container :=
    Container.parse_eq_ok_iff.mpr ⟨by decide, by decide⟩
  have holds : container.Holds [7] [] [] := ⟨rfl, by decide, by decide, by decide, .inl (by decide)⟩
  obtain ⟨⟨asked, askings, -, exactly, -⟩, -⟩ := read_asks chunks none (.fixed ⟨[]⟩) (worldFrom []) something
  rw [(exactly [7]).mpr ⟨rfl, container, [], [], parsed, holds⟩] at askings
  exact ⟨something, askings⟩

end Ring

end Keyring
