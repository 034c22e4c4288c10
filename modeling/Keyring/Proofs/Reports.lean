import Keyring.Proofs.Failure
import Keyring.Proofs.Serving

namespace Keyring

open Keyring.Action

namespace Session

open Desk

section Failing

variable {emptyOk : Bool} {desk later : Desk}

/-- A command that comes to a fault was asked for too much, of the supply, of a key's length, of the ids or of a
packet. -/
theorem run_provokes {request : Request} {fault : Fault}
    (failed : run emptyOk request desk = .error (.fault fault) later) : request.Provokes desk fault := by
  rcases run_fails failed with ⟨-, provoked⟩ | ⟨ring, fresh, between, brings, since, failed⟩
  · exact provoked fault rfl
  rcases save_failed failed with ⟨-, stopped⟩ | ⟨same, -⟩
  · obtain ⟨ended, stopped⟩ := stopped fault rfl
    obtain ⟨accessKey, formed⟩ := brings.sound.formed
    rcases formed.encode_fault brings.sound.saltFits stopped with ⟨rfl, limited⟩ | ⟨length, rfl, big, inside⟩
    · exact .supply (since.limit ▸ limited)
    · exact .size brings.leads big inside
  · cases same

end Failing

section Making

variable {path passphrase : String} {emptyOk : Bool} {choice : KeyChoice} {desk keyed : Desk} {key : Bytes}

theorem newKey_random {length : Nat} {world : World} (positive : length ≠ 0) (enough : world.supply.Has length)
    (tree : Tree) (passphrases : Passphrases) :
    ∃ keyed, newKey ⟨none, some length⟩ (boundless world tree passphrases) =
        .ok (world.supply.segment world.supply.drawn length) (boundless keyed tree passphrases) ∧
      keyed.supply = world.supply.after length := by
  obtain ⟨count, rfl⟩ := Nat.exists_eq_succ_of_ne_zero positive
  have drawn : (Ring.randomKey (count + 1) : Action CommandError Bytes) world =
      .ok (world.supply.segment world.supply.drawn (count + 1))
        ⟨world.supply.after (count + 1), world.trace.push (.drew .storedKey world.supply.drawn (count + 1))⟩ :=
    draw_of_has enough .storedKey
  exact ⟨_, bind_of_ok (onWorld_of_ok drawn) _, rfl⟩

variable {ring : Ring} {fresh : Bool}

theorem save_stops {fault : Fault} {ended : World} (checked : desk.tree.checkFolder (Path.folder path) = .ok ())
    (stopped : ring.encode desk.world = .error (.fault fault) ended) :
    save path ring fresh desk = .error (.fault fault) { desk with world := ended } := by
  have failed : Desk.onRing (ring.write .boundless) desk = .error (.fault fault) { desk with world := ended } :=
    onWorld_failed.mpr ⟨ended, mapCause_eq_fault.mpr (bind_of_error stopped _), rfl⟩
  unfold save
  rw [bind_get, bind_of_ok (ofFile_eq_ok.mpr ⟨checked, rfl⟩), bind_of_error failed]

end Making

section Results

variable {emptyOk : Bool} {request : Request} {desk later : Desk} {failure : Failure CommandError}

/-- A command that fails has changed no file, or it has done all of its work: the file is the whole of a new keyring,
and only the note about it was refused. -/
theorem failure_spares_files (failed : run emptyOk request desk = .error failure later) :
    later.tree = desk.tree ∨
      failure = .error (.io refusal) ∧ desk.noteRoom ≠ none ∧
        ∃ (ring : Ring) (accessKey data : Bytes) (fresh : Bool), ring.WellFormed accessKey ∧ ring.Writes data ∧
          desk.tree.place request.path data fresh = .ok later.tree := by
  rcases run_fails failed with ⟨since, -⟩ | ⟨ring, fresh, between, brings, since, failed⟩
  · exact .inl since.tree
  rcases save_failed failed with ⟨same, -⟩ | ⟨refused, bounded, data, ended, encoded, placed⟩
  · exact .inl (same.trans since.tree)
  · obtain ⟨accessKey, formed⟩ := brings.sound.formed
    obtain ⟨last, wrote⟩ := (Ring.write_eq_ok_iff between.world).mpr ⟨data, ⟨ended, encoded⟩, rfl⟩
    rw [since.tree] at placed
    exact .inr ⟨refused, fun boundless => bounded (since.notes boundless),
      ring, accessKey, data, fresh, formed, ⟨.boundless, _, between.world, last, wrote⟩, placed⟩

/-- Where there is a file already, nothing is created. -/
theorem failure_spares_files_there :
    ∃ later, run false (.create "ring" ⟨some "k", none⟩)
        (.boundless (Ring.worldFrom []) ⟨[(["ring"], .file [] .shared)], []⟩ (.fixed "pw")) =
          .error (.error (.alreadyThere "ring")) later ∧ later.tree = ⟨[(["ring"], .file [] .shared)], []⟩ := by
  have failed : run false (.create "ring" ⟨some "k", none⟩)
      (.boundless (Ring.worldFrom []) ⟨[(["ring"], .file [] .shared)], []⟩ (.fixed "pw")) =
        .error (.error (.alreadyThere "ring"))
          (.boundless (Ring.worldFrom []) ⟨[(["ring"], .file [] .shared)], []⟩ (.fixed "pw")) := rfl
  rcases failure_spares_files failed with same | ⟨refused, -⟩
  · exact ⟨_, failed, same⟩
  · cases refused

/-- The note about a new keyring is refused, but the keyring is there. -/
theorem failure_spares_files_refused :
    ∃ later data, run false (.create "ring" ⟨some "k", none⟩) ⟨Ring.worldFrom [], ⟨[], []⟩, .fixed "pw", none, some 0⟩ =
        .error (.error (.io refusal)) later ∧ later.tree = ⟨[(["ring"], .file data .ownerOnly)], []⟩ := by
  let desk : Desk := ⟨Ring.worldFrom [], ⟨[], []⟩, .fixed "pw", none, some 0⟩
  have absent : desk.tree.has "ring" = false := rfl
  have made : newKey ⟨some "k", none⟩ desk = .ok (textBytes "k") desk := rfl
  have nonempty : textBytes "k" ≠ [] := by decide
  have short : (textBytes "k").length + 56 ≤ max24 := by decide
  have given : newPassphrase false desk = .ok "pw" desk := rfl
  have enough : desk.world.supply.Has
      (Derivation.saltLength + (Ring.dataKeyLength + Sealing.nonceLength + Sealing.nonceLength)) :=
    ⟨by decide, by simp [desk, Ring.worldFrom]⟩
  obtain ⟨ring, salt, salted, founded, saltFits, founding, left, creates⟩ :=
    create_saves absent made nonempty given enough
  have formed := (Ring.Origin.new founding).wellFormed
  have writable : ring.Writable := by
    obtain ⟨-, -, -, _, -, rfl⟩ := (Ring.new_eq_ok_iff salted).mp ⟨founded, founding⟩
    exact Ring.writable_of_single rfl rfl saltFits short
  obtain ⟨data, encoded⟩ := writable.encode formed left
  have folder : Tree.checkFolder ⟨[], []⟩ (Path.folder "ring") = .ok () := rfl
  have places : Tree.Places ⟨[], []⟩ "ring" ["ring"] := ⟨rfl, rfl, rfl, by decide⟩
  have placed : Tree.place ⟨[], []⟩ "ring" data true = .ok ⟨[(["ring"], .file data .ownerOnly)], []⟩ :=
    Tree.place_eq_ok_iff.mpr ⟨["ring"], places, fun _ => rfl, rfl⟩
  let saved : Desk := { desk with world := founded }
  obtain ⟨last, noting⟩ := save_eq_note "ring" saved folder encoded placed
  have something : ∀ front : String, textBytes (front ++ "\n") ≠ [] := by
    intro front
    rw [textBytes_append]
    exact List.append_ne_nil_of_right_ne_nil _ (by decide)
  have full : { saved with tree := ⟨[(["ring"], .file data .ownerOnly)], []⟩, world := last }.noteRoom = some 0 := rfl
  exact ⟨_, data, creates.trans (noting.trans (note_refused full (something _))), rfl⟩

/-- With random bytes that do not run out, a command ends, or it fails for a cause that it tells. What is left is to add
a key where the last id is given out, and to lead to a bundle that is too big for a packet. -/
theorem run_reports (emptyOk : Bool) (endless : desk.world.supply.limit = none)
    (short : ∀ length ∈ request.random?, length < lengthLimit) :
    (∃ later, run emptyOk request desk = .ok () later) ∨
      (∃ cause later, run emptyOk request desk = .error (.error cause) later) ∨
      (∃ path choice activates ring later, request = .add path choice activates ∧ desk.Opens path ring ∧
        ring.maxId = Ring.maxKeyId ∧ run emptyOk request desk = .error (.fault .idsExhausted) later) ∨
      ∃ size length later, request.LeadsTo desk size ∧ max24 < length ∧ length ≤ size ∧
        run emptyOk request desk = .error (.fault (.packetTooBig length)) later := by
  cases ran : run emptyOk request desk with
  | ok _ later => exact .inl ⟨later, rfl⟩
  | error failure later =>
    cases failure with
    | error cause => exact .inr (.inl ⟨cause, later, rfl⟩)
    | fault fault =>
      cases run_provokes ran with
      | supply limited => exact absurd endless limited
      | length asked long => exact absurd (short _ asked) (Nat.not_lt.mpr long)
      | ids adds opens last => exact .inr (.inr (.inl ⟨_, _, _, _, later, adds, opens, last, rfl⟩))
      | size leads big inside => exact .inr (.inr (.inr ⟨_, _, later, leads, big, inside, rfl⟩))

/-- A random key of sixteen bytes is short enough. -/
theorem run_reports_sixteen :
    (Ring.worldFrom []).supply.limit = none ∧
      ((∃ later, run false (.create "ring" ⟨none, some 16⟩)
          (.boundless (Ring.worldFrom []) ⟨[], []⟩ (.fixed "pw")) = .ok () later) ∨
        ∃ cause later, run false (.create "ring" ⟨none, some 16⟩)
          (.boundless (Ring.worldFrom []) ⟨[], []⟩ (.fixed "pw")) = .error (.error cause) later) := by
  have endless : (Desk.boundless (Ring.worldFrom []) ⟨[], []⟩ (.fixed "pw")).world.supply.limit = none := rfl
  have short : ∀ length ∈ (Request.create "ring" ⟨none, some 16⟩).random?, length < lengthLimit := by decide
  rcases run_reports false endless short with
    ended | told | ⟨_, _, _, _, _, adds, -⟩ | ⟨size, length, _, leads, big, inside, -⟩
  · exact ⟨endless, .inl ended⟩
  · exact ⟨endless, .inr told⟩
  · cases adds
  · change size = 56 + (Supply.segment _ _ 16).length at leads
    rw [Supply.length_segment] at leads
    simp only [max24] at big
    omega

/-- A random key that is longer than a packet is drawn, but it is not written. -/
theorem create_of_long {length : Nat} (big : max24 < 4 + length) (short : length < lengthLimit) :
    ∃ later, run false (.create "ring" ⟨none, some length⟩) (.boundless (Ring.worldFrom []) ⟨[], []⟩ (.fixed "pw")) =
      .error (.fault (.packetTooBig (4 + length))) later := by
  have positive : length ≠ 0 := by
    simp only [max24] at big
    omega
  have enough : (Ring.worldFrom []).supply.Has length := ⟨short, by simp [Ring.worldFrom]⟩
  obtain ⟨keyed, made, supply⟩ := newKey_random positive enough ⟨[], []⟩ (.fixed "pw")
  have size := Supply.length_segment (Ring.worldFrom []).supply (Ring.worldFrom []).supply.drawn length
  have nonempty : (Ring.worldFrom []).supply.segment (Ring.worldFrom []).supply.drawn length ≠ [] := by
    refine List.ne_nil_of_length_pos ?_
    omega
  have more : keyed.supply.Has
      (Derivation.saltLength + (Ring.dataKeyLength + Sealing.nonceLength + Sealing.nonceLength)) := by
    rw [supply]
    exact ⟨by decide, by simp [Ring.worldFrom, Supply.after]⟩
  have absent : (boundless (Ring.worldFrom []) ⟨[], []⟩ (.fixed "pw")).tree.has "ring" = false := rfl
  have given : newPassphrase false (boundless keyed ⟨[], []⟩ (.fixed "pw")) =
      .ok "pw" (boundless keyed ⟨[], []⟩ (.fixed "pw")) := rfl
  obtain ⟨ring, salt, salted, founded, -, founding, -, creates⟩ := create_saves absent made nonempty given more
  -- Only the bundling measures the key.
  have stopped : ring.encode founded = .error (.fault (.packetTooBig (4 + length))) founded := by
    obtain ⟨-, -, -, _, -, rfl⟩ := (Ring.new_eq_ok_iff salted).mp ⟨founded, founding⟩
    rw [← size] at big
    rw [Ring.encode_of_big_key rfl rfl big founded, size]
  have folder : Tree.checkFolder ⟨[], []⟩ (Path.folder "ring") = .ok () := rfl
  have stops := @save_stops "ring" (boundless founded ⟨[], []⟩ (.fixed "pw")) ring true _ _ folder stopped
  exact ⟨_, creates.trans stops⟩

/-- With the number of the key in front of it, a key of 16777212 bytes is one byte too long. -/
theorem run_reports_long :
    ∃ later, run false (.create "ring" ⟨none, some 16777212⟩) (.boundless (Ring.worldFrom []) ⟨[], []⟩ (.fixed "pw")) =
      .error (.fault (.packetTooBig 16777216)) later :=
  create_of_long (by decide) (by decide)

end Results

end Session

end Keyring
