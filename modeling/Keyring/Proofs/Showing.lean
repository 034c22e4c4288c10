import Keyring.Proofs.CarryThrough
import Keyring.Proofs.Dumping
import Keyring.Proofs.Steps

namespace Keyring

open Keyring.Action

namespace Desk

theorem note_boundless (text : String) (world : World) (tree : Tree) (passphrases : Passphrases) :
    ∃ later : World, later.output = world.output ∧
      note text (boundless world tree passphrases) = .ok () (boundless later tree passphrases) :=
  ⟨⟨world.supply, world.trace.push (.noted (textBytes text))⟩, output_push rfl _ _, rfl⟩

theorem askPassphrase_of_answer {passphrases : Passphrases} {passphrase : String}
    (answer : passphrases.next.1 = .ok passphrase) (prompt : String) (world : World) (tree : Tree) :
    ∃ asked : World, asked.output = world.output ∧ askPassphrase prompt (boundless world tree passphrases) =
      .ok passphrase (boundless asked tree passphrases.next.2) := by
  obtain ⟨asked, -, output, same⟩ := askPassphrase_boundless prompt world tree passphrases
  refine ⟨asked, output, ?_⟩
  rw [same, answer]
  rfl

end Desk

namespace Session

open Desk

variable {path : String} {tree : Tree} {passphrases : Passphrases} {passphrase : String} {source : Source}
  {data : Bytes} {layers : Ring.Layers}

/-- What can be opened layer by layer is unlocked for showing. -/
theorem unlock_of_layers (opened : Ring.Layers.Of layers data (.passphrase passphrase))
    (answer : passphrases.next.1 = .ok passphrase) (world : World) (tree : Tree) :
    ∃ later : World, later.output = world.output ∧ unlock layers.container (boundless world tree passphrases) =
      .ok layers.dataKey (boundless later tree passphrases.next.2) := by
  obtain ⟨-, -, dataKeyFound, -, salt⟩ := Ring.holds_iff.mp opened.holds
  obtain ⟨announced, announcedOutput, announces⟩ :=
    note_boundless "Found encrypted bundles, passphrase required to decrypt\n" world tree passphrases
  obtain ⟨asked, askedOutput, asks⟩ := askPassphrase_of_answer answer "Passphrase: " announced tree
  obtain ⟨told, toldOutput, tells⟩ := note_boundless "Unlocked data storage key\n" asked tree passphrases.next.2
  have unlocks : onWorld (mapCause .unlock (Ring.openContent (Credential.key (.passphrase passphrase) layers.salt)
      layers.wrappedKey)) (boundless asked tree passphrases.next.2) =
      .ok layers.dataKey (boundless asked tree passphrases.next.2) :=
    onWorld_of_ok (mapCause_eq_ok.mpr (Ring.openContent_eq_ok.mpr ⟨opened.dataKeyOpens, rfl⟩))
  refine ⟨told, toldOutput.trans (askedOutput.trans announcedOutput), ?_⟩
  unfold unlock
  rw [dataKeyFound, salt]
  simp only [pure_bind]
  rw [bind_of_ok announces, bind_of_ok asks, bind_of_ok unlocks, bind_of_ok tells]
  rfl

/-- A keyring that can be opened layer by layer is shown to the end. -/
theorem inspect_of_layers (found : tree.source path = .ok source) (contents : source.contents = .ok data)
    (opened : Ring.Layers.Of layers data (.passphrase passphrase)) (answer : passphrases.next.1 = .ok passphrase)
    (world : World) :
    ∃ ended : World, ended.output = world.output ++ textBytes (Listing.dumpText layers) ∧
      inspect path true (boundless world tree passphrases) = .ok () (boundless ended tree passphrases.next.2) := by
  obtain ⟨unlocked, unlockedOutput, unlocks⟩ := unlock_of_layers opened answer world tree
  obtain ⟨ended, -, endedOutput, prints⟩ :=
    print_boundless (Listing.dumpText layers) unlocked tree passphrases.next.2
  have parses : (Action.ofExcept ((Container.parse data).mapError fun stopped => .malformed stopped.damage) :
      DeskAction Container) (boundless world tree passphrases) =
      .ok layers.container (boundless world tree passphrases) := by
    rw [opened.parsed]
    rfl
  have hasBundle : layers.container.packets.any (·.type = .bundle) = true := by
    have member : ⟨.bundle, layers.sealedBundle⟩ ∈ layers.container.packets.filter (·.type = .bundle) := by
      rw [opened.holds.bundle]
      exact List.mem_cons_self
    exact List.any_eq_true.mpr ⟨_, (List.mem_filter.mp member).1, rfl⟩
  have keyed : (some <$> unlock layers.container) (boundless world tree passphrases) =
      .ok (some layers.dataKey) (boundless unlocked tree passphrases.next.2) := by
    rw [map_eq_pure_bind, bind_of_ok unlocks]
    rfl
  refine ⟨ended, by rw [endedOutput, unlockedOutput], ?_⟩
  unfold inspect
  rw [bind_get, boundless_tree, bind_of_ok (ofFile_eq_ok.mpr ⟨found, rfl⟩),
    bind_of_ok (ofFile_eq_ok.mpr ⟨contents, rfl⟩), bind_of_ok parses]
  simp only [hasBundle, Bool.and_self, if_true]
  rw [bind_of_ok keyed, Listing.ofContainer_eq opened]
  simp only [Listing.complete]
  rw [bind_of_ok prints]
  rfl

/-- What is listed is shown, and the other way around: the entries that a bundle is shown to hold are the keys that
are listed, each told once, and the active key that is shown is the one that is marked in the list. If none is shown,
the key with the lowest id is marked. -/
theorem inspect_shows_listed {listed : Desk} {world : World}
    (lists : list path true (boundless world tree passphrases) = .ok () listed) (others : Passphrases)
    (samePassphrase : others.next.1 = passphrases.next.1) (begun : World) :
    ∃ (entries : List Entry) (active : KeyId) (recorded : Option (Option KeyId)) (listing dump : String) (shown : Desk),
      listed.world.output = world.output ++ textBytes listing ∧
      inspect path true (boundless begun tree others) = .ok () shown ∧
      shown.world.output = begun.output ++ textBytes dump ∧
      KeySet.Ascending entries ∧
      lines listing = s!"# {entries.length} total" :: (entries.map (Listing.listLine active) ++ [""]) ∧
      (linesFrom "   ID: " dump).Perm (entries.map Listing.entryLine) ∧
      linesFrom "   <invalid" dump = [] ∧
      linesFrom "   active key id: " dump = recorded.toList.map Listing.activeLine ∧
      (∃ entry ∈ entries, entry.id = active) ∧
      (∀ id, recorded.join = some id → active = id) ∧
      (recorded.join = none → ∀ entry ∈ entries, active ≤ entry.id) := by
  simp only [list, bind_eq_ok] at lists
  obtain ⟨ring, opening, opens, prints⟩ := lists
  obtain ⟨source, passphrase, later, found, answer, ⟨_, _, read⟩, rfl, -, unchanged⟩ := openRing_eq_ok opens
  obtain ⟨data, layers, contents, opened, rfl⟩ := (Ring.read_eq_ok_iff _).mp ⟨_, read⟩
  obtain ⟨printed, rfl, output⟩ := print_eq_ok prints
  obtain ⟨shown, shownOutput, shows⟩ :=
    inspect_of_layers found contents opened (samePassphrase.trans answer) begun
  have described := opened.described
  obtain ⟨recorded, records, nonzero⟩ := Bundle.exists_record described.bundled described.single
  have onRecord := Bundle.recordedActive_of_records records nonzero
  have follows := described.active
  rw [onRecord] at follows
  refine ⟨layers.bundle.view.keys.entries, layers.bundle.view.activeId, recorded, _, Listing.dumpText layers, _,
    ?_, shows, shownOutput, described.ascending, Listing.lines_ofView _, ?_, ?_, ?_, ?_, ?_, ?_⟩
  · rw [← unchanged]
    exact output
  · rw [Listing.linesFrom_dumpText Listing.tells_id opened, Listing.flatMap_id described.bundled]
    exact (described.perm.map _).symm
  · rw [Listing.linesFrom_dumpText Listing.tells_invalid opened, Listing.flatMap_invalid described.bundled]
  · rw [Listing.linesFrom_dumpText Listing.tells_active opened,
      Listing.flatMap_active described.bundled records nonzero]
  · exact List.mem_map.mp layers.bundle.view.activeId_mem
  · intro id join
    rw [join] at follows
    exact follows
  · intro join entry member
    rw [join] at follows
    exact Snapshot.activeId_le described.ascending follows member

/-- A keyring that another writer made is listed, and shown without a complaint. -/
theorem inspect_shows_listed_foreign :
    ∃ (tree : Tree) (listed shown : Desk) (dump : String),
      list "ring" true (boundless (Ring.worldFrom []) tree (.fixed "pw")) = .ok () listed ∧
      inspect "ring" true (boundless (Ring.worldFrom []) tree (.lines (textBytes "pw\n"))) = .ok () shown ∧
      shown.world.output = textBytes dump ∧ linesFrom "   ID: " dump ≠ [] ∧ linesFrom "   <invalid" dump = [] := by
  have opened := Ring.foreignUnder_opens (Credential.length_passphrase "pw" [])
  generalize (Ring.foreignUnder (Credential.key (.passphrase "pw") [])).container.bytes = content at opened
  let tree : Tree := ⟨[(["ring"], .file content .shared)], []⟩
  have found : tree.source "ring" = .ok (.ofBytes content) := rfl
  have reads : ∀ begun, ∃ ended, Ring.read (.ofBytes content) (.passphrase "pw") begun = .ok _ ended := fun begun =>
    (Ring.read_eq_ok_iff begun).mpr ⟨content, _, Source.contents_ofBytes content, opened, rfl⟩
  have answer : (Passphrases.fixed "pw").next.1 = .ok "pw" := rfl
  obtain ⟨later, opens⟩ := openRing_of_ok found answer reads (Ring.worldFrom [])
  have lists : ∃ listed, list "ring" true (boundless (Ring.worldFrom []) tree (.fixed "pw")) = .ok () listed := by
    obtain ⟨printed, -, -, prints⟩ := print_boundless _ later tree (.fixed "pw")
    rw [list, bind_of_ok opens]
    exact ⟨_, prints⟩
  obtain ⟨listed, lists⟩ := lists
  obtain ⟨entries, active, recorded, listing, dump, shown, -, shows, output, -, -, told, sound, -,
    ⟨entry, member, -⟩, -⟩ := inspect_shows_listed lists (.lines (textBytes "pw\n")) rfl (Ring.worldFrom [])
  refine ⟨tree, listed, shown, dump, lists, shows, output, ?_, sound⟩
  intro nothing
  have line := told.mem_iff.mpr (List.mem_map.mpr ⟨entry, member, rfl⟩)
  rw [nothing] at line
  cases line

end Session

end Keyring
