import Keyring.Proofs.Account

namespace Keyring

/-- With the passphrase, what stands for the data key in a file opens to these bytes. -/
def Ring.DataKeyOpens (content : Bytes) (passphrase : String) (dataKey : Bytes) : Prop :=
  ∃ container wrappedKey, Container.parse content = .ok container ∧
    Ring.content? .dataKey container.packets = some wrappedKey ∧
    Sealing.openWith (Credential.key (.passphrase passphrase) ((Ring.content? .salt container.packets).getD []))
      wrappedKey [] = .ok dataKey

/-- A passphrase opens what stands for the data key to one thing only. -/
theorem Ring.DataKeyOpens.unique {content dataKey other : Bytes} {passphrase : String}
    (opens : DataKeyOpens content passphrase dataKey) (opensOther : DataKeyOpens content passphrase other) :
    dataKey = other := by
  obtain ⟨container, wrappedKey, parsed, found, opened⟩ := opens
  obtain ⟨_, _, parsedOther, foundOther, openedOther⟩ := opensOther
  cases parsed.symm.trans parsedOther
  cases found.symm.trans foundOther
  cases opened.symm.trans openedOther
  rfl

theorem Derivation.newAccessKey_eq_ok {passphrase : String} {accessKey salt : Bytes} {world later : World} :
    (newAccessKey (textBytes passphrase) : Action CommandError (Bytes × Bytes)) world = .ok (accessKey, salt) later →
      accessKey = Credential.key (.passphrase passphrase) salt := by
  intro derived
  simp only [newAccessKey, Action.bind_eq_ok, Action.pure_eq_ok] at derived
  obtain ⟨_, _, -, same, -⟩ := derived
  cases same
  rfl

namespace Ring

variable {ring : Ring} {content accessKey : Bytes}

theorem Writes.dataKeyOpens_iff (written : ring.Writes content) (formed : ring.WellFormed accessKey)
    {passphrase : String} {dataKey : Bytes} :
    DataKeyOpens content passphrase dataKey ↔
      Sealing.openWith (Credential.key (.passphrase passphrase) ring.salt) ring.wrappedKey [] = .ok dataKey := by
  obtain ⟨container, sealedBundle, parsed, holds⟩ := written.holds formed
  obtain ⟨-, -, dataKeyFound, -, salt⟩ := holds_iff.mp holds
  constructor
  · rintro ⟨other, wrappedKey, parsedOther, found, opens⟩
    cases parsed.symm.trans parsedOther
    cases dataKeyFound.symm.trans found
    rwa [salt] at opens
  · intro opens
    refine ⟨container, ring.wrappedKey, parsed, dataKeyFound, ?_⟩
    rwa [salt]

/-- A credential that opens nothing but the data key reads nothing but the ring. -/
theorem Writes.reads_same {credential other : Credential} (written : ring.Writes content)
    (formed : ring.WellFormed (credential.key ring.salt))
    (fair : ∀ dataKey, Sealing.openWith (other.key ring.salt) ring.wrappedKey [] = .ok dataKey →
      Sealing.openWith (credential.key ring.salt) ring.wrappedKey [] = .ok dataKey)
    {source : Source} (contents : source.contents = .ok content) {found : Ring} {begun ended : World}
    (accepted : read source other begun = .ok found ended) : found = ring := by
  obtain ⟨data, layers, contentsData, opened, rfl⟩ := (read_eq_ok_iff begun).mp ⟨ended, accepted⟩
  cases contents.symm.trans contentsData
  obtain ⟨container, sealedBundle, parsed, holds⟩ := written.holds formed
  cases parsed.symm.trans opened.parsed
  obtain ⟨-, -, dataKeyFound, -, salt⟩ := holds_iff.mp holds
  obtain ⟨-, -, dataKeyFoundOther, -, saltOther⟩ := holds_iff.mp opened.holds
  have sameSalt : layers.salt = ring.salt := saltOther.symm.trans salt
  have sameKey : layers.wrappedKey = ring.wrappedKey := Option.some.inj (dataKeyFoundOther.symm.trans dataKeyFound)
  have opens := opened.dataKeyOpens
  rw [sameSalt, sameKey] at opens
  have fits := (Sealing.eq_envelope_of_openWith formed.opens).1
  -- The layers that the other credential opened open with the ring's own one too, and that one reads one ring only.
  have reopened : Layers.Of layers content credential :=
    { opened with
      accessKeyFits := by rw [sameSalt]; exact fits
      dataKeyOpens := by rw [sameSalt, sameKey]; exact fair _ opens }
  obtain ⟨later, again⟩ := (read_eq_ok_iff begun).mpr ⟨content, layers, contents, reopened, rfl⟩
  obtain ⟨last, reads⟩ := written.reads formed source contents begun
  cases again.symm.trans reads
  rfl

end Ring

namespace Account

/-- A passphrase that opens the data key of a file as it is meant to be opened, or not at all. The cipher alone does not
rule out that a message opens to other bytes under another key. -/
def Fair (account : Account) (content : Bytes) (passphrase : String) : Prop :=
  ∀ dataKey, Ring.DataKeyOpens content passphrase dataKey → Ring.DataKeyOpens content account.passphrase dataKey

/-- A passphrase that opens the data key of a file to what the one set last opens it to. -/
def OpenedBy (account : Account) (content : Bytes) (passphrase : String) : Prop :=
  ∃ dataKey, Ring.DataKeyOpens content passphrase dataKey ∧ Ring.DataKeyOpens content account.passphrase dataKey

theorem OpenedBy.fair {account : Account} {content : Bytes} {passphrase : String}
    (opened : account.OpenedBy content passphrase) : account.Fair content passphrase := by
  intro dataKey opens
  obtain ⟨known, opensKnown, current⟩ := opened
  rwa [opens.unique opensKnown]

/-- A ring that the account is true of is in the file at a path, and can be saved there again. -/
structure Held (account : Account) (path : String) (tree : Tree) (spot : Spot) (content : Bytes) (ring : Ring) :
    Prop where
  folder : tree.checkFolder (Path.folder path) = .ok ()
  places : tree.Places path spot
  found : tree.find? spot = some (.file content .ownerOnly)
  written : ring.Writes content
  stated : account.States ring

/-- A ring that the account is true of is in the file at a path. -/
def Kept (account : Account) (path : String) (tree : Tree) : Prop :=
  ∃ spot content ring, account.Held path tree spot content ring

open Desk Session Keyring.Action

section Saving

variable {account : Account} {path : String} {tree : Tree} {world : World} {passphrases : Passphrases} {desk : Desk}

/-- A keyring that has been saved is in the file. -/
theorem kept_of_save {next : Ring} {fresh : Bool} (stated : account.States next)
    (saved : save path next fresh (boundless world tree passphrases) = .ok () desk) :
    account.Kept path desk.tree ∧ desk.world.output = world.output := by
  obtain ⟨checked, data, put, later, ⟨encoded, done⟩, placed, rfl, output⟩ := save_eq_ok saved
  obtain ⟨spot, places, -, rfl⟩ := Tree.place_eq_ok_iff.mp placed
  obtain ⟨_, wrote⟩ := (Ring.write_eq_ok_iff world).mpr ⟨data, ⟨encoded, done⟩, rfl⟩
  have written : next.Writes data := ⟨.boundless, data.length, world, _, wrote⟩
  refine ⟨⟨spot, data, next, places.checkFolder_put checked, places.put, ?_, written, stated⟩, output⟩
  exact Tree.find?_put_self tree places.below

/-- A keyring that has been made is in the file. -/
theorem kept_of_create {emptyOk : Bool} {choice : KeyChoice}
    (done : Session.create emptyOk path choice (boundless world tree passphrases) = .ok () desk) :
    tree.has path = false ∧ ∃ passphrase, passphrases.next.1 = .ok passphrase ∧
      Kept ⟨[choice.bytes world.supply], 1, passphrase⟩ path desk.tree := by
  unfold Session.create at done
  simp only [bind_eq_ok, get_eq_ok, ite_eq_ok, fail_eq_ok, false_and, exists_false, and_false, false_or] at done
  obtain ⟨_, _, ⟨rfl, rfl⟩, absent, key, _, made, passphrase, _, given, ⟨accessKey, salt⟩, _, salted, ring, _, founding,
    saved⟩ := done
  obtain ⟨rfl, begun, rfl, -⟩ := newKey_eq_ok made
  obtain ⟨answer, asked, left, rfl⟩ := newPassphrase_eq_ok given
  obtain ⟨later, salting, rfl⟩ := onWorld_eq_ok.mp salted
  obtain ⟨stored, founded, rfl⟩ := onRing_eq_ok.mp founding
  cases Derivation.newAccessKey_eq_ok salting
  exact ⟨Bool.eq_false_iff.mpr absent, passphrase, answer, (kept_of_save (States.of_new founded) saved).1⟩

end Saving

namespace Held

variable {account : Account} {path : String} {tree : Tree} {spot : Spot} {content : Bytes} {ring : Ring}
  {world : World} {passphrases : Passphrases} {desk : Desk}

theorem node (held : account.Held path tree spot content ring) : tree.node path = .ok (.file content .ownerOnly) :=
  held.places.node_of_find? held.found

theorem has (held : account.Held path tree spot content ring) : tree.has path = true := by
  rw [Tree.has, held.node]
  rfl

theorem source (held : account.Held path tree spot content ring) : tree.source path = .ok (.ofBytes content) := by
  rw [Tree.source, held.node]
  rfl

theorem reads (held : account.Held path tree spot content ring) :
    Ring.ReadsAs content (.passphrase account.passphrase) ring :=
  held.written.reads held.stated.formed

/-- The passphrase set last opens the data key. -/
theorem openedBy (held : account.Held path tree spot content ring) : account.OpenedBy content account.passphrase := by
  have formed := held.stated.formed
  have opens : Ring.DataKeyOpens content account.passphrase ring.dataKey.bytes :=
    (held.written.dataKeyOpens_iff formed).mpr formed.opens
  exact ⟨ring.dataKey.bytes, opens, opens⟩

/-- What holds under the passphrase set last holds under one that opens the data key just so. -/
theorem under {passphrase : String} (held : account.Held path tree spot content ring)
    (opened : account.OpenedBy content passphrase) :
    Held { account with passphrase := passphrase } path tree spot content ring := by
  have formed := held.stated.formed
  obtain ⟨dataKey, opens, current⟩ := opened
  have same : ring.dataKey.bytes = dataKey :=
    Except.ok.inj (formed.opens.symm.trans ((held.written.dataKeyOpens_iff formed).mp current))
  have reopened := (held.written.dataKeyOpens_iff formed).mp opens
  rw [← same] at reopened
  have formedUnder : ring.WellFormed (Credential.key (.passphrase passphrase) ring.salt) :=
    formed.under reopened
  have stated : States { account with passphrase := passphrase } ring :=
    ⟨formedUnder, held.stated.keys, held.stated.active⟩
  exact ⟨held.folder, held.places, held.found, held.written, stated⟩

section Opening

/-- The passphrase set last opens the keyring. -/
theorem opens (held : account.Held path tree spot content ring) (current : passphrases.next.1 = .ok account.passphrase)
    (world : World) :
    ∃ later : World, openRing path (boundless world tree passphrases) =
      .ok ring (boundless later tree passphrases.next.2) ∧
        later.supply = world.supply ∧ later.output = world.output := by
  obtain ⟨later, opened⟩ := openRing_of_ok held.source current (held.reads _ (Source.contents_ofBytes content)) world
  exact ⟨later, opened, openRing_unchanged opened⟩

/-- Whoever opens the keyring with a fair passphrase gets the ring. -/
theorem opened {found : Ring} (held : account.Held path tree spot content ring)
    (fair : ∀ passphrase, passphrases.next.1 = .ok passphrase → account.Fair content passphrase)
    (done : openRing path (boundless world tree passphrases) = .ok found desk) :
    found = ring ∧ ∃ later, desk = boundless later tree passphrases.next.2 ∧ later.supply = world.supply ∧
      later.output = world.output := by
  have formed := held.stated.formed
  obtain ⟨source, passphrase, later, given, answer, ⟨begun, ended, accepted⟩, shape, unchanged⟩ := openRing_eq_ok done
  cases given.symm.trans held.source
  have opens : ∀ dataKey,
      Sealing.openWith (Credential.key (.passphrase passphrase) ring.salt) ring.wrappedKey [] = .ok dataKey →
        Sealing.openWith (Credential.key (.passphrase account.passphrase) ring.salt) ring.wrappedKey [] =
          .ok dataKey := by
    intro dataKey opens
    have known := fair passphrase answer dataKey ((held.written.dataKeyOpens_iff formed).mpr opens)
    exact (held.written.dataKeyOpens_iff formed).mp known
  have same := held.written.reads_same formed opens (Source.contents_ofBytes content) accepted
  exact ⟨same, later, shape, unchanged⟩

theorem refused {passphrase : String} (held : account.Held path tree spot content ring)
    (closed : ∀ dataKey, ¬ Ring.DataKeyOpens content passphrase dataKey) :
    Sealing.openWith (Credential.key (.passphrase passphrase) ring.salt) ring.wrappedKey [] = .error .refused := by
  have formed := held.stated.formed
  refine formed.refused (Credential.length_passphrase passphrase ring.salt) ?_
  exact fun plain opens => closed plain ((held.written.dataKeyOpens_iff formed).mpr opens)

/-- A passphrase that opens nothing is refused. -/
theorem refuses {passphrase : String} (held : account.Held path tree spot content ring)
    (answer : passphrases.next.1 = .ok passphrase) (closed : ∀ dataKey, ¬ Ring.DataKeyOpens content passphrase dataKey)
    (world : World) :
    ∃ later : World, later.output = world.output ∧ openRing path (boundless world tree passphrases) =
      .error (.error (.ring .refused)) (boundless later tree passphrases.next.2) := by
  have fits := Credential.length_passphrase passphrase ring.salt
  have fails := held.written.fails_of_closed held.stated.formed fits (held.refused closed)
  exact openRing_of_error held.source answer (fails _ (Source.contents_ofBytes content)) world

end Opening

section Commands

variable (fair : ∀ passphrase, passphrases.next.1 = .ok passphrase → account.Fair content passphrase)
include fair

theorem add {choice : KeyChoice} {activates : Bool} (held : account.Held path tree spot content ring)
    (done : Session.add path choice activates (boundless world tree passphrases) = .ok () desk) :
    (account.grown (choice.bytes world.supply) activates).Kept path desk.tree ∧
      desk.world.output = world.output ++ textBytes (account.growth (choice.bytes world.supply) activates) := by
  unfold Session.add at done
  simp only [bind_eq_ok] at done
  obtain ⟨key, _, made, found, _, opening, ⟨id, grown⟩, _, adding, _, _, printed, rest⟩ := done
  obtain ⟨rfl, given, rfl, outputGiven⟩ := newKey_eq_ok made
  obtain ⟨rfl, opened, rfl, -, outputOpened⟩ := held.opened fair opening
  obtain ⟨stored, added, rfl⟩ := onRing_eq_ok.mp adding
  obtain ⟨number, stated⟩ := held.stated.add added
  -- Nothing is printed up to the line of the new key.
  have outputStored : stored.output = world.output := by
    have kept := ((Ring.quiet_add _ _).silent (· = opened.output)).of_ok rfl added
    rw [kept, outputOpened, outputGiven]
  obtain ⟨told, rfl, outputTold⟩ := print_eq_ok printed
  rw [outputStored] at outputTold
  cases activates with
  | false =>
    obtain ⟨kept, output⟩ := kept_of_save stated rest
    refine ⟨kept, ?_⟩
    rw [output, outputTold, number, textBytes_growth, if_neg Bool.false_ne_true, List.append_nil]
  | true =>
    simp only [if_true, bind_eq_ok] at rest
    obtain ⟨next, _, activating, _, _, printed, saved⟩ := rest
    obtain ⟨settled, activated, rfl⟩ := onRing_eq_ok.mp activating
    have outputSettled := ((Ring.quiet_activate _ _).silent (· = told.output)).of_ok rfl activated
    obtain ⟨last, rfl, outputLast⟩ := print_eq_ok printed
    have stated := stated.activate activated
    rw [number] at stated
    obtain ⟨kept, output⟩ := kept_of_save stated saved
    refine ⟨kept, ?_⟩
    rw [output, outputLast, outputSettled, outputTold, number, textBytes_growth, if_pos rfl, List.append_assoc]

theorem activate {id : KeyId} (held : account.Held path tree spot content ring)
    (done : Session.activate path id (boundless world tree passphrases) = .ok () desk) :
    Kept { account with active := id.toNat } path desk.tree := by
  unfold Session.activate at done
  simp only [bind_eq_ok, ite_eq_ok, fail_eq_ok, false_and, exists_false, and_false, false_or] at done
  obtain ⟨found, _, opening, -, rest⟩ := done
  obtain ⟨rfl, opened, rfl, -⟩ := held.opened fair opening
  -- A key that is active already is left as it is, without a save.
  rcases rest with ⟨already, noted⟩ | ⟨-, next, _, activating, _, _, printed, saved⟩
  · have same : id.toNat = account.active := by rw [← already, held.stated.active]
    cases noted
    rw [same]
    exact ⟨spot, content, _, held⟩
  · obtain ⟨stored, activated, rfl⟩ := onRing_eq_ok.mp activating
    cases printed
    exact (kept_of_save (held.stated.activate activated) saved).1

theorem rekey {emptyOk : Bool} (held : account.Held path tree spot content ring)
    (done : Session.rekey emptyOk path (boundless world tree passphrases) = .ok () desk) :
    ∃ passphrase, passphrases.next.2.next.1 = .ok passphrase ∧
      Kept { account with passphrase := passphrase } path desk.tree := by
  unfold Session.rekey at done
  simp only [bind_eq_ok] at done
  obtain ⟨found, _, opening, passphrase, _, given, ⟨accessKey, salt⟩, _, derived, next, _, rekeying, _, _, printed,
    saved⟩ := done
  obtain ⟨rfl, opened, rfl, -⟩ := held.opened fair opening
  obtain ⟨answer, asked, left, rfl⟩ := newPassphrase_eq_ok given
  obtain ⟨salted, salting, rfl⟩ := onWorld_eq_ok.mp derived
  obtain ⟨stored, rekeyed, rfl⟩ := onRing_eq_ok.mp rekeying
  obtain ⟨told, rfl, -⟩ := print_eq_ok printed
  cases Derivation.newAccessKey_eq_ok salting
  exact ⟨passphrase, answer, (kept_of_save (held.stated.rekey rekeyed) saved).1⟩

end Commands

end Held

end Account

end Keyring
