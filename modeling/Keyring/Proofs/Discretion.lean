import Keyring.Proofs.Beside

namespace Keyring

open Keyring.Action

namespace Ring

/-- A ring in order that has the data key. -/
structure Under (dataKey : Bytes) (ring : Ring) : Prop where
  sound : ring.Sound
  dataKey : ring.dataKey.bytes = dataKey

/-- Rings of one contour, each under its data key. -/
structure Twin (dataKey dataKey' : Bytes) (ring twin : Ring) : Prop where
  alike : ring.contour = twin.contour
  under : ring.Under dataKey
  twinUnder : twin.Under dataKey'

section Calls

variable {dataKey : Bytes} {ring next : Ring} {world later : World}

theorem Under.add {key : Bytes} {id : KeyId} (under : ring.Under dataKey)
    (added : ring.add key world = .ok (id, next) later) : next.Under dataKey := by
  obtain ⟨sound, -⟩ := under.sound.add added
  obtain ⟨-, -, -, rfl⟩ := (add_eq_ok_iff world).mp ⟨later, added⟩
  exact ⟨sound, under.dataKey⟩

theorem Under.activate {id : KeyId} (under : ring.Under dataKey) (activated : ring.activate id world = .ok next later) :
    next.Under dataKey := by
  obtain ⟨sound, -⟩ := under.sound.activate activated
  obtain ⟨_, -, rfl⟩ := (activate_eq_ok_iff world).mp ⟨later, activated⟩
  exact ⟨sound, under.dataKey⟩

theorem Under.rekey {accessKey salt : Bytes} (under : ring.Under dataKey) (saltFits : salt.length ≤ max24)
    (rekeyed : ring.rekey accessKey (some salt) world = .ok next later) : next.Under dataKey := by
  obtain ⟨sound, -⟩ := under.sound.rekey saltFits rekeyed
  obtain ⟨-, _, -, rfl⟩ := (rekey_eq_ok_iff world).mp ⟨later, rekeyed⟩
  exact ⟨sound, under.dataKey⟩

end Calls

variable {coupled : World → World → Prop} (coupling : World.Coupling coupled) {dataKey dataKey' : Bytes} {ring twin : Ring}
include coupling

theorem twin_new {config other : Config} {salt salt' : Bytes} (initialKeys : SameLength config.initialKey other.initialKey)
    (accessKeys : SameLength config.accessKey other.accessKey) (given : config.salt = some salt)
    (givenToo : other.salt = some salt') (salts : SameLength salt salt') (saltFits : salt.length ≤ max24) :
    Meets coupled (fun ring twin => Twin ring.dataKey.bytes twin.dataKey.bytes ring twin) (new config) (new other) := by
  have both : Option.Rel SameLength config.salt other.salt := by
    rw [given, givenToo]
    exact .some salts
  refine (meets_new coupling initialKeys accessKeys both).imp fun made madeToo alike => ⟨alike, ⟨?_, rfl⟩, ⟨?_, rfl⟩⟩
  · exact (Sound.of_new given saltFits made).1
  · exact (Sound.of_new givenToo (salts ▸ saltFits) madeToo).1

omit coupling in
theorem twin_read {content content' : Bytes} (alike : Resembles dataKey dataKey' content content')
    {passphrase passphrase' : String} (evenly : Evenly dataKey dataKey' content content' passphrase passphrase') :
    Meets World.Alongside (fun ring twin => Twin dataKey dataKey' ring twin)
      (read (.ofBytes content) (.passphrase passphrase)) (read (.ofBytes content') (.passphrase passphrase')) := by
  refine (meets_read alike evenly).imp fun accepted acceptedToo same => ?_
  have opened := dataKey?_of_read accepted
  have openedToo := dataKey?_of_read acceptedToo
  rcases evenly with ⟨right, rightToo⟩ | ⟨wrong, -⟩
  · refine ⟨same, ⟨.of_read accepted, ?_⟩, ⟨.of_read acceptedToo, ?_⟩⟩
    · exact Option.some.inj (opened.symm.trans right)
    · exact Option.some.inj (openedToo.symm.trans rightToo)
  · cases opened.symm.trans wrong

variable (rings : Twin dataKey dataKey' ring twin)
include rings

theorem Twin.add {key key' : Bytes} (keys : SameLength key key') :
    Meets coupled (fun made other => made.1 = other.1 ∧ Twin dataKey dataKey' made.2 other.2) (ring.add key)
      (twin.add key') := by
  obtain ⟨_, formed⟩ := rings.under.sound.formed
  obtain ⟨_, twinFormed⟩ := rings.twinUnder.sound.formed
  refine (meets_add coupling rings.alike formed twinFormed keys).imp fun added addedToo same => ?_
  exact ⟨same.1, same.2, rings.under.add added, rings.twinUnder.add addedToo⟩

theorem Twin.activate (id : KeyId) :
    Meets coupled (fun next other => Twin dataKey dataKey' next other) (ring.activate id) (twin.activate id) :=
  (meets_activate coupling rings.alike id).imp fun activated activatedToo same =>
    ⟨same, rings.under.activate activated, rings.twinUnder.activate activatedToo⟩

theorem Twin.rekey {accessKey accessKey' salt salt' : Bytes} (accessKeys : SameLength accessKey accessKey')
    (salts : SameLength salt salt') (saltFits : salt.length ≤ max24) :
    Meets coupled (fun next other => Twin dataKey dataKey' next other) (ring.rekey accessKey (some salt))
      (twin.rekey accessKey' (some salt')) :=
  (meets_rekey coupling rings.alike accessKeys (.some salts)).imp fun rekeyed rekeyedToo same =>
    ⟨same, rings.under.rekey saltFits rekeyed, rings.twinUnder.rekey (salts ▸ saltFits) rekeyedToo⟩

end Ring

theorem Listing.ofView_of_outline {view twin : Snapshot} (alike : view.outline = twin.outline) :
    ofView false view = ofView false twin := by
  have lines : ∀ (active : KeyId) (entries : List Entry), entries.map (keyLine false active) =
      (entries.map Entry.outline).map fun key =>
        let shown := s!"{key.2} bytes"
        let mark := if key.1 = active then " [active]" else ""
        s!"{key.1.toNat}: {shown}{mark}\n" := by
    intro active entries
    rw [List.map_map]
    rfl
  unfold ofView
  rw [lines, lines, Snapshot.entries_of_outline alike, Snapshot.length_of_outline alike,
    Snapshot.activeId_of_outline alike]

/-- A list with the keys shown tells more than the outline. -/
example : (Snapshot.single [0x61]).outline = (Snapshot.single [0x62]).outline ∧
    Listing.ofView true (.single [0x61]) ≠ Listing.ofView true (.single [0x62]) := by
  decide +kernel

/-- What comes of a passphrase at a keyring. -/
inductive Trial where
  /-- It opens the data key. -/
  | right
  /-- It opens nothing. -/
  | wrong
  /-- By chance it opens what stands for the data key to something else. -/
  | chance
  deriving DecidableEq

/-- What comes of a passphrase that opens what stands for the data key as said. -/
def Trial.of (dataKey : Bytes) : Option Bytes → Trial
  | none => wrong
  | some opened => if opened = dataKey then right else chance

theorem Trial.even {dataKey dataKey' : Bytes} {opened opened' : Option Bytes}
    (same : Trial.of dataKey opened = .of dataKey' opened') (fair : Trial.of dataKey opened ≠ .chance) :
    opened = some dataKey ∧ opened' = some dataKey' ∨ opened = none ∧ opened' = none := by
  unfold Trial.of at same fair
  cases opened <;> cases opened' <;> grind

namespace Desk

/-- What comes of the next passphrase at the keyring that a path leads to. -/
def trial? (dataKeys : Spot → Bytes) (desk : Desk) (path : String) : Option Trial :=
  match desk.tree.spot path, desk.tree.node path, desk.passphrases.next.1 with
  | .ok spot, .ok (.file content _), .ok passphrase => some (.of (dataKeys spot) (Ring.dataKey? content passphrase))
  | _, _, _ => none

/-- Two desks that differ in nothing but what is secret or left to chance. -/
structure Twin (dataKeys dataKeys' : Spot → Bytes) (desk twin : Desk) : Prop where
  trees : desk.tree.Twin dataKeys dataKeys' twin.tree
  beside : Beside desk.tree twin.tree desk twin

/-- Two desks at which a keyring has been saved, or not. -/
inductive Saved (tree tree' : Tree) (path : String) (fresh : Bool) (dataKey dataKey' : Bytes) (desk twin : Desk) : Prop
  | not : Beside tree tree' desk twin → Saved tree tree' path fresh dataKey dataKey' desk twin
  | placed {spot : Spot} {content content' : Bytes} : tree.Places path spot → (fresh = true → tree.find? spot = none) →
    Resembles dataKey dataKey' content content' →
    Beside (tree.put spot (.file content .ownerOnly)) (tree'.put spot (.file content' .ownerOnly)) desk twin →
    Saved tree tree' path fresh dataKey dataKey' desk twin

variable {tree tree' : Tree} {dataKeys dataKeys' : Spot → Bytes} {desk twin : Desk} {path : String} {fresh : Bool}

theorem Beside.toTwin (beside : Beside tree tree' desk twin) (trees : tree.Twin dataKeys dataKeys' tree') :
    desk.Twin dataKeys dataKeys' twin := by
  obtain ⟨rfl, rfl, -⟩ := id beside
  exact ⟨trees, beside⟩

/-- While nothing is saved, twin desks stay so. -/
theorem Twin.later (twins : desk.Twin dataKeys dataKeys' twin) (later later' : Desk)
    (beside : Beside desk.tree twin.tree later later') : later.Twin dataKeys dataKeys' later' :=
  beside.toTwin twins.trees

/-- What is saved at the place that a keyring was read from leaves twin desks. -/
theorem Saved.toTwin {spot : Spot} (saved : Saved tree tree' path fresh (dataKeys spot) (dataKeys' spot) desk twin)
    (trees : tree.Twin dataKeys dataKeys' tree') (leads : tree.spot path = .ok spot) :
    desk.Twin dataKeys dataKeys' twin := by
  cases saved with
  | not beside => exact beside.toTwin trees
  | placed places free alike beside =>
    cases places.leads.symm.trans leads
    have placed := trees.put places.below .ownerOnly alike
    rw [Function.update_eq_self, Function.update_eq_self] at placed
    exact beside.toTwin placed

end Desk

namespace Session

open Desk

variable {tree tree' : Tree} {dataKeys dataKeys' : Spot → Bytes} {desk twin : Desk} {path : String}

/-- Keyrings at one path are opened alike if the passphrases are right or wrong alike. -/
theorem ends_openRing (beside : Beside tree tree' desk twin) (trees : tree.Twin dataKeys dataKeys' tree')
    (same : desk.trial? dataKeys path = twin.trial? dataKeys' path) (fair : desk.trial? dataKeys path ≠ some .chance) :
    Ends (Beside tree tree')
      (fun ring ring' => ∃ spot, tree.spot path = .ok spot ∧ ring.Twin (dataKeys spot) (dataKeys' spot) ring')
      (openRing path desk) (openRing path twin) := by
  have coupling := World.Alongside.coupling
  have nodes := trees.node path
  unfold trial? at same fair
  rw [beside.tree, beside.twinTree, ← trees.spot path] at same
  rw [beside.tree] at fair
  unfold openRing
  rw [bind_get, bind_get, Tree.source, Tree.source, beside.tree, beside.twinTree]
  cases mine : tree.node path <;> cases yours : tree'.node path <;> rw [mine, yours] at nodes <;> cases nodes
  case error.error cause => exact .failed (.error (CommandError.file path cause)) beside
  case ok.ok node node' related =>
    obtain ⟨spot, leads, -, nodes⟩ := related
    rw [leads, mine, yours] at same
    rw [leads, mine] at fair
    simp only [Except.map]
    rw [bind_of_ok (ofFile_eq_ok.mpr ⟨rfl, rfl⟩), bind_of_ok (ofFile_eq_ok.mpr ⟨rfl, rfl⟩)]
    refine Ends.bind (beside.ends_askPassphrase _) (fun _ _ => And.left) ?_
    intro passphrase passphrase' later later' _ _ given besides
    obtain ⟨answer, answerToo, -⟩ := given
    rw [answer, answerToo] at same
    rw [answer] at fair
    have rest : ∀ ring ring', Ring.Twin (dataKeys spot) (dataKeys' spot) ring ring' → Meets (Beside tree tree')
        (fun ring ring' => ∃ spot, tree.spot path = .ok spot ∧ ring.Twin (dataKeys spot) (dataKeys' spot) ring')
        (Desk.log (.ofSession "opened keyring" [("path", path), ("keys", toString ring.length)]) >>= fun _ => pure ring)
        (Desk.log (.ofSession "opened keyring" [("path", path), ("keys", toString ring'.length)]) >>= fun _ =>
          pure ring') := by
      intro ring ring' rings
      rw [Ring.length_of_contour rings.alike]
      exact .bind (meets_log _) fun _ _ _ => .pure ⟨spot, leads, rings⟩
    refine Meets.bind (meets_onRing ?_) rest later later' besides.1
    cases nodes with
    | folder => exact .throw (.error (RingError.io .isDirectory))
    | file mode alike =>
      have evenly := Trial.even (Option.some.inj same) fun chance => fair (congrArg some chance)
      exact Ring.twin_read alike evenly

/-- Saving twin rings at one path goes alike. -/
theorem ends_save {dataKey dataKey' : Bytes} {ring ring' : Ring} (beside : Beside tree tree' desk twin)
    (trees : tree.Twin dataKeys dataKeys' tree') (rings : ring.Twin dataKey dataKey' ring') (path : String) (fresh : Bool) :
    Ends (Saved tree tree' path fresh dataKey dataKey') (fun _ _ => True) (save path ring fresh desk)
      (save path ring' fresh twin) := by
  obtain ⟨_, formed⟩ := rings.under.sound.formed
  obtain ⟨_, twinFormed⟩ := rings.twinUnder.sound.formed
  have notYet : ∀ desk twin, Beside tree tree' desk twin → Saved tree tree' path fresh dataKey dataKey' desk twin :=
    fun _ _ => .not
  unfold save
  rw [bind_get, bind_get, beside.tree, beside.twinTree, ← trees.checkFolder]
  refine Ends.bind (Meets.outcome _ _ _ beside) notYet fun _ _ desk twin _ _ _ beside => ?_
  have writes := Ring.meets_write World.Alongside.coupling rings.alike .boundless
  refine Ends.bind (meets_onRing writes _ _ beside) notYet fun delivery delivery' desk twin _ _ delivered beside => ?_
  obtain ⟨written, data, data', encoded, encodedToo, -, received, received'⟩ := delivered
  rw [written]
  refine Ends.bind (Meets.outcome _ _ _ beside) notYet fun count count' desk twin _ _ counts beside => ?_
  subst counts
  have places := (trees.place path delivery.received delivery'.received fresh).mapError (CommandError.file path)
  refine Ends.bind (Meets.ofExcept places _ _ beside) notYet fun next next' desk twin _ _ placed beside => ?_
  obtain ⟨spot, leads, free, rfl, rfl⟩ := placed
  have alike := encoded.resembles encodedToo rings.alike formed twinFormed
  rw [rings.under.dataKey, rings.twinUnder.dataKey] at alike
  change Resembles _ _ (Sink.boundless.take data).1 (Sink.boundless.take data').1 at alike
  rw [← received, ← received'] at alike
  have nowThere : ∀ desk twin, Beside (tree.put spot (.file delivery.received .ownerOnly))
      (tree'.put spot (.file delivery'.received .ownerOnly)) desk twin →
      Saved tree tree' path fresh dataKey dataKey' desk twin := fun _ _ => .placed leads free alike
  refine Ends.mono ?_ nowThere
  exact Meets.bind (meets_log _) (fun _ _ _ => meets_note _) _ _ { beside with tree := rfl, twinTree := rfl }

section Commands

variable (twins : desk.Twin dataKeys dataKeys' twin)
include twins

theorem ends_resave {spot : Spot} {ring ring' : Ring} {later later' : Desk} (leads : desk.tree.spot path = .ok spot)
    (rings : ring.Twin (dataKeys spot) (dataKeys' spot) ring') (beside : Beside desk.tree twin.tree later later') :
    Ends (Desk.Twin dataKeys dataKeys') (fun _ _ => True) (save path ring false later) (save path ring' false later') :=
  (ends_save beside twins.trees rings path false).mono fun _ _ saved => saved.toTwin twins.trees leads

/-- An answer is given before the keyring is saved. -/
theorem ends_answered {spot : Spot} {ring ring' : Ring} {later later' : Desk} (leads : desk.tree.spot path = .ok spot)
    (rings : ring.Twin (dataKeys spot) (dataKeys' spot) ring') (beside : Beside desk.tree twin.tree later later')
    (text : String) :
    Ends (Desk.Twin dataKeys dataKeys') (fun _ _ => True) ((Desk.print text >>= fun _ => save path ring false) later)
      ((Desk.print text >>= fun _ => save path ring' false) later') :=
  Ends.bind (meets_print text _ _ beside) twins.later fun _ _ _ _ _ _ _ beside => ends_resave twins leads rings beside

section Opening

variable (same : desk.trial? dataKeys path = twin.trial? dataKeys' path)
  (fair : desk.trial? dataKeys path ≠ some .chance)
include same fair

/-- What comes after keyrings have been opened. -/
theorem ends_opened {α α' : Type} {rel : α → α' → Prop} {rest : Ring → DeskAction α} {others : Ring → DeskAction α'}
    (next : ∀ spot ring ring' later later', desk.tree.spot path = .ok spot →
      ring.Twin (dataKeys spot) (dataKeys' spot) ring' → Beside desk.tree twin.tree later later' →
      Ends (Desk.Twin dataKeys dataKeys') rel (rest ring later) (others ring' later')) :
    Ends (Desk.Twin dataKeys dataKeys') rel ((openRing path >>= rest) desk) ((openRing path >>= others) twin) := by
  refine Ends.bind (ends_openRing twins.beside twins.trees same fair) twins.later ?_
  intro ring ring' later later' _ _ opened beside
  obtain ⟨spot, leads, rings⟩ := opened
  exact next spot ring ring' later later' leads rings beside

theorem ends_list :
    Ends (Desk.Twin dataKeys dataKeys') (fun _ _ => True) (list path false desk) (list path false twin) := by
  refine ends_opened twins same fair fun spot ring ring' later later' _ rings beside => ?_
  rw [Listing.ofView_of_outline (Ring.view_of_contour rings.alike)]
  exact Ends.mono (meets_print _ _ _ beside) twins.later

theorem ends_activate (id : KeyId) :
    Ends (Desk.Twin dataKeys dataKeys') (fun _ _ => True) (activate path id desk) (activate path id twin) := by
  refine ends_opened twins same fair fun spot ring ring' later later' leads rings beside => ?_
  have has : ring.has id = ring'.has id := Snapshot.has_of_outline (Ring.view_of_contour rings.alike) id
  refine .guard (twins.later _ _ beside) (by rw [has]) rfl fun _ => ?_
  rw [Ring.activeId_of_contour rings.alike]
  split
  · exact Ends.mono (meets_note _ _ _ beside) twins.later
  · have activates := rings.activate World.Alongside.coupling id
    refine Ends.bind (meets_onRing activates _ _ beside) twins.later fun _ _ _ _ _ _ nexts beside => ?_
    exact ends_answered twins leads nexts beside _

theorem ends_rekey (emptyOk : Bool) :
    Ends (Desk.Twin dataKeys dataKeys') (fun _ _ => True) (rekey emptyOk path desk) (rekey emptyOk path twin) := by
  refine ends_opened twins same fair fun spot ring ring' later later' leads rings beside => ?_
  refine Ends.bind (meets_newPassphrase emptyOk _ _ beside) twins.later fun passphrase passphrase' _ _ _ _ _ beside => ?_
  have derives := meets_onWorld (Derivation.meets_newAccessKey World.Alongside.coupling (textBytes passphrase)
    (textBytes passphrase')) _ _ beside
  refine Ends.bind derives twins.later fun made made' _ _ _ _ derived beside => ?_
  obtain ⟨accessKeys, salts, saltFits⟩ := derived
  have rekeys := rings.rekey World.Alongside.coupling accessKeys salts saltFits
  refine Ends.bind (meets_onRing rekeys _ _ beside) twins.later fun _ _ _ _ _ _ nexts beside => ?_
  exact ends_answered twins leads nexts beside _

end Opening

theorem ends_add {choice other : KeyChoice} (alike : choice.Alike other) (activates : Bool)
    (same : ∀ key key' later later', newKey choice desk = .ok key later → newKey other twin = .ok key' later' →
      later.trial? dataKeys path = later'.trial? dataKeys' path)
    (fair : ∀ key later, newKey choice desk = .ok key later → later.trial? dataKeys path ≠ some .chance) :
    Ends (Desk.Twin dataKeys dataKeys') (fun _ _ => True) (add path choice activates desk)
      (add path other activates twin) := by
  refine Ends.bind (meets_newKey alike _ _ twins.beside) twins.later ?_
  intro key key' desk' twin' chosen chosenToo sizes beside
  have twins := twins.later desk' twin' beside
  refine ends_opened twins (same _ _ _ _ chosen chosenToo) (fair _ _ chosen)
    fun spot ring ring' _ _ leads rings beside => ?_
  have adds := rings.add World.Alongside.coupling sizes
  refine Ends.bind (meets_onRing adds _ _ beside) twins.later fun made made' _ _ _ _ added beside => ?_
  obtain ⟨id, next⟩ := made
  obtain ⟨id', next'⟩ := made'
  obtain ⟨ids, nexts⟩ := added
  dsimp only at ids nexts ⊢
  rw [ids, sizes]
  refine Ends.bind (meets_print _ _ _ beside) twins.later fun _ _ _ _ _ _ _ beside => ?_
  cases activates with
  | false => exact ends_resave twins leads nexts beside
  | true =>
    have activates := nexts.activate World.Alongside.coupling id'
    refine Ends.bind (meets_onRing activates _ _ beside) twins.later fun _ _ _ _ _ _ nexts beside => ?_
    exact ends_answered twins leads nexts beside _

end Commands

/-- The keyring that a command makes, before it is saved. -/
def found (emptyOk : Bool) (choice : KeyChoice) : DeskAction Ring := do
  let key ← Desk.newKey choice
  let passphrase ← Desk.newPassphrase emptyOk
  let (accessKey, salt) ← Desk.onWorld (Derivation.newAccessKey (textBytes passphrase))
  Desk.onRing (Ring.new ⟨key, accessKey, some salt⟩)

theorem create_of_free {emptyOk : Bool} {choice : KeyChoice} (free : desk.tree.has path = false) :
    create emptyOk path choice desk = (found emptyOk choice >>= fun ring => save path ring true) desk := by
  unfold create found
  rw [bind_get]
  simp only [free, bind_assoc]
  rfl

theorem meets_found {choice other : KeyChoice} (alike : choice.Alike other) (emptyOk : Bool) :
    Meets (Beside tree tree') (fun ring ring' => ring.Twin ring.dataKey.bytes ring'.dataKey.bytes ring')
      (found emptyOk choice) (found emptyOk other) := by
  have coupling := World.Alongside.coupling
  unfold found
  refine .bind (meets_newKey alike) fun key key' sizes => ?_
  refine .bind (meets_newPassphrase emptyOk) fun passphrase passphrase' _ => ?_
  refine .bind (meets_onWorld (Derivation.meets_newAccessKey coupling _ _)) fun made made' derived => ?_
  obtain ⟨accessKeys, salts, saltFits⟩ := derived
  exact meets_onRing (Ring.twin_new coupling sizes accessKeys rfl rfl salts saltFits)

end Session

end Keyring
