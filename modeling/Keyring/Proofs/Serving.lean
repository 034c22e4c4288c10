import Keyring.Proofs.Kept
import Keyring.Proofs.Resaving

namespace Keyring

/-- The access key of a passphrase is made as soon as there are bytes for a salt. -/
theorem Derivation.newAccessKey_of_has {world : World} (enough : world.supply.Has saltLength) (passphrase : String) :
    ∃ salt later, (newAccessKey (textBytes passphrase) : Action CommandError (Bytes × Bytes)) world =
      .ok (Credential.key (.passphrase passphrase) salt, salt) later ∧ salt.length = saltLength ∧
        later.supply = world.supply.after saltLength := by
  let salt := world.supply.segment world.supply.drawn saltLength
  let later : World := ⟨world.supply.after saltLength, world.trace.push (.drew .salt world.supply.drawn saltLength)⟩
  have drawn : (newSalt : Action CommandError Bytes) world = .ok salt later := Action.draw_of_has enough .salt
  refine ⟨salt, later, ?_, Supply.length_segment _ _ _, rfl⟩
  rw [newAccessKey, Action.bind_of_ok drawn]
  rfl

namespace Ring

variable {ring : Ring} {content accessKey : Bytes}

/-- A ring whose packets are all short enough to be written. -/
structure Writable (ring : Ring) : Prop where
  innerFits : ∀ packet ∈ ring.bundle.packets, packet.Fits
  saltFits : ring.salt.length ≤ max24
  bundleFits : Sealing.sealedLength (Packet.joined ring.bundle.packets).length ≤ max24

theorem Writes.writable (written : ring.Writes content) (formed : ring.WellFormed accessKey) : ring.Writable := by
  obtain ⟨_, _, world, _, wrote⟩ := written
  obtain ⟨later, encoded⟩ := encode_of_write wrote
  obtain ⟨inner, -, salt, bundle⟩ := (encode_succeeds_iff formed world).mp ⟨content, later, encoded⟩
  exact ⟨inner, salt, bundle⟩

theorem Writable.encode (writable : ring.Writable) (formed : ring.WellFormed accessKey) {world : World}
    (enough : world.supply.Has Sealing.nonceLength) : ∃ data later, ring.encode world = .ok data later :=
  (encode_succeeds_iff formed world).mpr ⟨writable.innerFits, enough, writable.saltFits, writable.bundleFits⟩

/-- A new ring is made as soon as there are bytes for its data key and a nonce. -/
theorem new_of_has {config : Config} (accessKeyFits : config.accessKey.length = Credential.keyLength)
    (nonempty : config.initialKey ≠ []) {world : World}
    (enough : world.supply.Has (dataKeyLength + Sealing.nonceLength)) :
    ∃ ring later, new config world = .ok ring later := by
  let dataKey := world.supply.segment world.supply.drawn dataKeyLength
  let nonce := world.supply.segment (world.supply.drawn + dataKeyLength) Sealing.nonceLength
  have dataKeyFits : dataKey.length = dataKeyLength := Supply.length_segment _ _ _
  have within : Sealing.withinCounter dataKey = true := by
    rw [Sealing.withinCounter, dataKeyFits]
    decide
  have wrapped := Sealing.sealWith_envelope nonce [] accessKeyFits within
  obtain ⟨later, made⟩ := (new_eq_ok_iff world).mpr ⟨nonempty, enough.mono (by omega), enough.after, _, wrapped, rfl⟩
  exact ⟨_, later, made⟩

/-- A ring of one key can be written if the key can. -/
theorem writable_of_single {key : Bytes} (view : ring.view = .single key) (extras : ring.bundleExtras = [])
    (saltFits : ring.salt.length ≤ max24) (short : key.length + 56 ≤ max24) : ring.Writable := by
  have active : (ActiveRecord.packet (some 1)).content.length = 4 := rfl
  have entry : (Entry.packet ⟨1, key⟩).content.length = 4 + key.length := by
    simp [Entry.packet, Entry.content, Nat.add_comm]
  refine ⟨?_, saltFits, ?_⟩
  · rw [packets_of_single view extras]
    simp only [List.forall_mem_cons, Packet.Fits, active, entry]
    refine ⟨by decide, by omega, by simp⟩
  · have size := sealedSize_single view extras
    rw [sealedSize] at size
    omega

theorem Writable.rekey {wrappedKey salt : Bytes} (writable : ring.Writable) (saltFits : salt.length ≤ max24) :
    Writable { ring with wrappedKey := wrappedKey, salt := salt } :=
  ⟨writable.innerFits, saltFits, writable.bundleFits⟩

/-- Which key is active does not matter for the length of any packet. -/
theorem Writable.activate {view : Snapshot} (writable : ring.Writable) (sameKeys : view.keys = ring.view.keys) :
    Writable { ring with view := view } := by
  have inner := writable.innerFits
  have whole := writable.bundleFits
  simp only [Bundle.packets, bundle, List.forall_mem_cons, Packet.joined_cons, List.length_append] at inner whole
  constructor
  · simp only [Bundle.packets, bundle, sameKeys, List.forall_mem_cons]
    exact inner
  · exact writable.saltFits
  · simp only [Bundle.packets, bundle, sameKeys, Packet.joined_cons, List.length_append]
    exact whole

end Ring

/-- Whoever asks for a new passphrase is given this one. -/
def Passphrases.Offers (passphrases : Passphrases) (emptyOk : Bool) (passphrase : String) : Prop :=
  ∀ world tree, ∃ asked left, Desk.newPassphrase emptyOk (.boundless world tree passphrases) =
    .ok passphrase (.boundless asked tree left)

theorem Passphrases.Offers.given {passphrases : Passphrases} {emptyOk : Bool} {passphrase : String}
    (offers : passphrases.Offers emptyOk passphrase) (world : World) (tree : Tree) :
    ∃ asked left, Desk.newPassphrase emptyOk (.boundless world tree passphrases) =
      .ok passphrase (.boundless asked tree left) ∧ asked.supply = world.supply := by
  obtain ⟨asked, left, given⟩ := offers world tree
  have begun : Desk.Over tree (fun supply _ => supply = world.supply) (.boundless world tree passphrases) :=
    Desk.over_boundless.mpr ⟨rfl, rfl⟩
  have kept := (Desk.over_newPassphrase emptyOk).of_ok begun given
  exact ⟨asked, left, given, (Desk.over_boundless.mp kept).2⟩

/-- With a key and a passphrase, a new keyring is on the point of being saved. -/
theorem Session.create_saves {emptyOk : Bool} {path passphrase : String} {choice : KeyChoice} {key : Bytes}
    {desk keyed asked : Desk} (absent : desk.tree.has path = false) (made : Desk.newKey choice desk = .ok key keyed)
    (nonempty : key ≠ []) (given : Desk.newPassphrase emptyOk keyed = .ok passphrase asked)
    (enough : asked.world.supply.Has
      (Derivation.saltLength + (Ring.dataKeyLength + Sealing.nonceLength + Sealing.nonceLength))) :
    ∃ ring salt salted founded, salt.length ≤ max24 ∧
      Ring.new ⟨key, Credential.key (.passphrase passphrase) salt, some salt⟩ salted = .ok ring founded ∧
      founded.supply.Has Sealing.nonceLength ∧
      create emptyOk path choice desk = save path ring true { asked with world := founded } := by
  obtain ⟨salt, salted, salting, saltFits, supply⟩ := Derivation.newAccessKey_of_has (enough.mono (by omega)) passphrase
  have enoughSalted := enough.after
  rw [← supply] at enoughSalted
  have founds : ∃ ring founded,
      Ring.new ⟨key, Credential.key (.passphrase passphrase) salt, some salt⟩ salted = .ok ring founded :=
    Ring.new_of_has (Credential.length_passphrase passphrase salt) nonempty (enoughSalted.mono (by omega))
  obtain ⟨ring, founded, founding⟩ := founds
  have enoughFounded := (Ring.spends_new _).has enoughSalted founding
  refine ⟨ring, salt, salted, founded, ?_, founding, enoughFounded, ?_⟩
  · rw [saltFits]
    decide
  unfold create
  rw [Action.bind_get, absent]
  simp only [Bool.false_eq_true, if_false]
  rw [Action.bind_of_ok made, Action.bind_of_ok given, Action.bind_of_ok (Desk.onWorld_done.mpr ⟨_, salting, rfl⟩)]
  dsimp only
  rw [Action.bind_of_ok (Desk.onRing_done.mpr ⟨founded, founding, rfl⟩)]

namespace Account

open Desk Session Keyring.Action

variable {account : Account} {path : String} {tree : Tree} {spot : Spot} {content : Bytes} {ring : Ring}
  {world : World} {passphrases : Passphrases}

/-- A ring that can be written is saved where a file can stand. -/
theorem States.saves {fresh : Bool} (stated : account.States ring) (writable : ring.Writable)
    (folder : tree.checkFolder (Path.folder path) = .ok ()) (places : tree.Places path spot)
    (free : fresh = true → tree.find? spot = none) (enough : world.supply.Has Sealing.nonceLength) :
    ∃ later, save path ring fresh (boundless world tree passphrases) = .ok () later := by
  obtain ⟨data, encoded⟩ := writable.encode stated.formed enough
  have placed : tree.place path data fresh = .ok (tree.put spot (.file data .ownerOnly)) :=
    Tree.place_eq_ok_iff.mpr ⟨spot, places, free, rfl⟩
  obtain ⟨last, saved⟩ := save_of folder encoded placed
  exact ⟨_, saved⟩

namespace Held

/-- A ring that can be written can take the place of the one in the file. -/
theorem resaves {next : Ring} {other : Account} (held : account.Held path tree spot content ring)
    (stated : other.States next) (writable : next.Writable) (enough : world.supply.Has Sealing.nonceLength) :
    ∃ later, save path next false (boundless world tree passphrases) = .ok () later := by
  exact stated.saves writable held.folder held.places (by simp) enough

section Current

variable (current : passphrases.next.1 = .ok account.passphrase)
include current

/-- With the passphrase set last, the keys are listed. -/
theorem list (held : account.Held path tree spot content ring) (world : World) :
    ∃ later, Session.list path true (boundless world tree passphrases) = .ok () later ∧ later.tree = tree ∧
      later.world.output = world.output ++ textBytes account.listing := by
  obtain ⟨opened, opening, -, output⟩ := held.opens current world
  obtain ⟨told, -, outputTold, printed⟩ := print_boundless account.listing opened tree passphrases.next.2
  refine ⟨boundless told tree passphrases.next.2, ?_, rfl, ?_⟩
  · rw [Session.list, bind_of_ok opening, held.stated.listing_eq]
    exact printed
  · rw [← output]
    exact outputTold

/-- With the passphrase set last, an id that is not stored cannot be made active. -/
theorem noSuchKey {id : KeyId} (held : account.Held path tree spot content ring)
    (absent : ¬ (1 ≤ id.toNat ∧ id.toNat ≤ account.keys.length)) (world : World) :
    ∃ later, Session.activate path id (boundless world tree passphrases) = .error (.error (.noSuchKey id)) later := by
  obtain ⟨opened, opening, -⟩ := held.opens current world
  have missing : ring.has id = false := by
    rw [Bool.eq_false_iff]
    exact fun has => absent (held.stated.has_iff.mp has)
  refine ⟨boundless opened tree passphrases.next.2, ?_⟩
  rw [Session.activate, bind_of_ok opening]
  simp only [missing, Bool.not_false, if_true]
  rfl

/-- With the passphrase set last, a stored id can be made active. -/
theorem activates {id : KeyId} (held : account.Held path tree spot content ring)
    (stored : 1 ≤ id.toNat ∧ id.toNat ≤ account.keys.length) {world : World}
    (enough : world.supply.Has Sealing.nonceLength) :
    ∃ later, Session.activate path id (boundless world tree passphrases) = .ok () later := by
  obtain ⟨opened, opening, supply, -⟩ := held.opens current world
  have has := held.stated.has_iff.mpr stored
  rw [Session.activate, bind_of_ok opening]
  simp only [has, Bool.not_true, Bool.false_eq_true, if_false]
  by_cases already : ring.activeId = id
  · rw [if_pos already]
    exact ⟨_, rfl⟩
  · rw [if_neg already]
    obtain ⟨view, finds⟩ := Snapshot.activate_of_has has
    obtain ⟨-, sameKeys⟩ := Snapshot.activate_eq_ok_iff.mp finds
    have activates : ∃ settled, ring.activate id opened = .ok { ring with view := view } settled :=
      (Ring.activate_eq_ok_iff opened).mpr ⟨view, finds, rfl⟩
    obtain ⟨settled, activated⟩ := activates
    have supplySettled := (Ring.quiet_activate ring id fun supply _ => supply = opened.supply).of_ok rfl activated
    obtain ⟨told, supplyTold, -, printed⟩ :=
      print_boundless s!"Activated key id {id.toNat}\n" settled tree passphrases.next.2
    have stated := held.stated.activate activated
    have writable := (held.written.writable held.stated.formed).activate sameKeys
    have drawn : told.supply.Has Sealing.nonceLength := by
      rw [supplyTold, supplySettled, supply]
      exact enough
    rw [bind_of_ok (onRing_of_ok activated), bind_of_ok printed]
    exact held.resaves stated writable drawn

/-- With the passphrase set last, the keyring can be put under another one. -/
theorem rekeys {emptyOk : Bool} {passphrase : String} (held : account.Held path tree spot content ring)
    (offers : passphrases.next.2.Offers emptyOk passphrase) {world : World}
    (enough : world.supply.Has (Derivation.saltLength + (Sealing.nonceLength + Sealing.nonceLength))) :
    ∃ later, Session.rekey emptyOk path (boundless world tree passphrases) = .ok () later := by
  obtain ⟨opened, opening, supply, -⟩ := held.opens current world
  obtain ⟨asked, left, given, supplyAsked⟩ := offers.given opened tree
  rw [← supply, ← supplyAsked] at enough
  obtain ⟨salt, salted, salting, saltFits, supplySalted⟩ :=
    Derivation.newAccessKey_of_has (enough.mono (by omega)) passphrase
  -- A nonce goes into the wrapped key, and another one is left for the bundle.
  have enoughSalted := enough.after
  rw [← supplySalted] at enoughSalted
  obtain ⟨wrappedKey, sealed, rekeyed, -⟩ := held.stated.formed.rekey (Credential.length_passphrase passphrase salt)
    (some salt) (enoughSalted.mono (by omega))
  have enoughSealed := (Ring.spends_rekey _ _ _).has enoughSalted rekeyed
  obtain ⟨told, supplyTold, -, printed⟩ :=
    print_boundless s!"Rekeyed {Path.displayName path}\n" sealed tree left
  rw [← supplyTold] at enoughSealed
  have shortSalt : salt.length ≤ max24 := by
    rw [saltFits]
    decide
  have stated := held.stated.rekey rekeyed
  have writable : Ring.Writable { ring with wrappedKey := wrappedKey, salt := salt } :=
    (held.written.writable held.stated.formed).rekey shortSalt
  rw [Session.rekey, bind_of_ok opening, bind_of_ok given, bind_of_ok (onWorld_of_ok salting)]
  dsimp only
  rw [bind_of_ok (onRing_of_ok rekeyed), bind_of_ok printed]
  exact held.resaves stated writable enoughSealed

end Current

section Closed

variable {passphrase : String} (answer : passphrases.next.1 = .ok passphrase)
  (closed : ∀ dataKey, ¬ Ring.DataKeyOpens content passphrase dataKey)
include answer closed

/-- A passphrase that opens nothing is refused by a look at the bundles too. -/
theorem refuses_inspect (held : account.Held path tree spot content ring) (world : World) :
    ∃ later, Session.inspect path true (boundless world tree passphrases) = .error (.error (.unlock .refused)) later ∧
      later.world.output = world.output := by
  have formed := held.stated.formed
  obtain ⟨container, sealedBundle, parsed, holds⟩ := held.written.holds formed
  obtain ⟨-, -, dataKeyFound, bundleFound, salt⟩ := Ring.holds_iff.mp holds
  have hasBundle : container.packets.any (·.type = .bundle) = true := by
    obtain ⟨packet, found, -⟩ := Option.map_eq_some_iff.mp bundleFound
    have ofType := List.find?_some found
    exact List.any_eq_true.mpr ⟨packet, List.mem_of_find?_eq_some found, ofType⟩
  have refused := held.refused closed
  rw [← salt] at refused
  obtain ⟨later, output, unlocking⟩ := unlock_of_refused dataKeyFound answer refused world
  have contents : Desk.ofFile path (Source.ofBytes content).contents (boundless world tree passphrases) =
      .ok content (boundless world tree passphrases) := ofFile_eq_ok.mpr ⟨Source.contents_ofBytes content, rfl⟩
  refine ⟨boundless later tree passphrases.next.2, ?_, output⟩
  unfold Session.inspect
  rw [bind_get, boundless_tree, bind_of_ok (ofFile_eq_ok.mpr ⟨held.source, rfl⟩), bind_of_ok contents,
    bind_of_ok (ofExcept_eq_ok.mpr ⟨Outcome.mapError_eq_ok.mpr parsed, rfl⟩)]
  simp only [hasBundle, Bool.and_true, if_true, map_eq_pure_bind]
  rw [bind_of_error (bind_of_error unlocking _)]

end Closed

end Held

/-- A new keyring can be made where nothing stands in the way. -/
theorem creates {emptyOk : Bool} {choice : KeyChoice} {key : Bytes} {passphrase : String} {keyed : World}
    (folder : tree.checkFolder (Path.folder path) = .ok ()) (places : tree.Places path spot)
    (free : tree.find? spot = none)
    (made : newKey choice (boundless world tree passphrases) = .ok key (boundless keyed tree passphrases))
    (offers : passphrases.Offers emptyOk passphrase)
    (nonempty : key ≠ []) (short : key.length + 56 ≤ max24)
    (enough : keyed.supply.Has
      (Derivation.saltLength + (Ring.dataKeyLength + Sealing.nonceLength + Sealing.nonceLength))) :
    ∃ later, Session.create emptyOk path choice (boundless world tree passphrases) = .ok () later := by
  have absent : (boundless world tree passphrases).tree.has path = false := places.has_eq_false free
  obtain ⟨asked, left, given, supplyAsked⟩ := offers.given keyed tree
  rw [← supplyAsked] at enough
  obtain ⟨ring, salt, salted, founded, saltFits, founding, left, same⟩ := create_saves absent made nonempty given enough
  have stated := States.of_new founding
  have writable : ring.Writable := by
    obtain ⟨-, -, -, _, -, rfl⟩ := (Ring.new_eq_ok_iff salted).mp ⟨founded, founding⟩
    exact Ring.writable_of_single rfl rfl saltFits short
  rw [same]
  exact stated.saves writable folder places (fun _ => free) left

end Account

end Keyring
