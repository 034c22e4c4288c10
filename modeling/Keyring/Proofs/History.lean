import Keyring.Proofs.Failure
import Keyring.Proofs.Serving

namespace Keyring

/-- A command, and what it is given. -/
structure Occasion where
  request : Request
  /-- Whether a new passphrase may be empty. -/
  emptyOk : Bool
  world : World
  passphrases : Passphrases

/-- The next passphrase; no text if there is none. -/
def Passphrases.answer (passphrases : Passphrases) : String :=
  match passphrases.next.1 with
  | .ok text => text
  | .error _ => ""

/-- Whether a change to a keyring that is there is asked for. -/
def Request.alters : Request → Bool
  | .add _ _ _ | .activate _ _ | .rekey _ => true
  | .create _ _ | .list _ _ | .inspect _ _ => false

/-- How a command fails when a passphrase opens nothing. -/
def Request.refusal : Request → CommandError
  | .inspect _ _ => .unlock .refused
  | _ => .ring .refused

namespace Occasion

/-- Runs the command over a tree, with streams that take everything. -/
def run (occasion : Occasion) (tree : Tree) : EStateM.Result (Failure CommandError) Desk Unit :=
  Session.run occasion.emptyOk occasion.request (.boundless occasion.world tree occasion.passphrases)

/-- The desk that the command leaves, if it goes through. -/
def desk? (occasion : Occasion) (tree : Tree) : Option Desk :=
  match occasion.run tree with
  | .ok _ later => some later
  | .error _ _ => none

/-- The cause that the command fails for, if it does. -/
def cause? (occasion : Occasion) (tree : Tree) : Option CommandError :=
  match occasion.run tree with
  | .error (.error cause) _ => some cause
  | .error (.fault _) _ | .ok _ _ => none

theorem desk?_eq_some_iff {occasion : Occasion} {tree : Tree} {later : Desk} :
    occasion.desk? tree = some later ↔ occasion.run tree = .ok () later := by
  unfold desk?
  split
  next ended => simp [ended]
  next ended => simp [ended]

theorem cause?_eq_some_iff {occasion : Occasion} {tree : Tree} {cause : CommandError} :
    occasion.cause? tree = some cause ↔ ∃ later, occasion.run tree = .error (.error cause) later := by
  unfold cause?
  split
  next ended => simp [ended]
  next ended => simp [ended]
  next ended => simp [ended]

/-- Whether the command gets as far as to open what the file holds. -/
def Opens (occasion : Occasion) (tree : Tree) : Prop :=
  match occasion.request with
  | .create _ _ => False
  | .list _ _ | .activate _ _ | .rekey _ => True
  | .add _ choice _ => ∃ key later,
      Desk.newKey choice (.boundless occasion.world tree occasion.passphrases) = .ok key later
  | .inspect _ decrypt => decrypt = true

end Occasion

namespace Account

/-- The account of a keyring that a command has made. -/
def created (choice : KeyChoice) (occasion : Occasion) : Account :=
  ⟨[choice.bytes occasion.world.supply], 1, occasion.passphrases.answer⟩

/-- The account after a command that went through. -/
def after (account : Account) (occasion : Occasion) : Account :=
  match occasion.request with
  | .add _ choice activates => account.grown (choice.bytes occasion.world.supply) activates
  | .activate _ id => { account with active := id.toNat }
  | .rekey _ => { account with passphrase := occasion.passphrases.next.2.answer }
  | _ => account

/-- On the occasion, a change to the keyring is asked for under a fair passphrase only. -/
def FairOn (account : Account) (occasion : Occasion) (tree : Tree) : Prop :=
  occasion.request.alters = true → ∀ content mode passphrase,
    tree.node occasion.request.path = .ok (.file content mode) → occasion.passphrases.next.1 = .ok passphrase →
      account.Fair content passphrase

end Account

/-- What has been done to the keyring at a path since a command made it, with the account that is kept of it and the
tree that it leads to. Each command starts from a world of its own, and those that go through and change the keyring
are given a fair passphrase. -/
inductive History (path : String) : Account → Tree → Prop
  | created {choice : KeyChoice} {occasion : Occasion} {before : Tree} {later : Desk} :
      occasion.request = .create path choice → occasion.run before = .ok () later →
      History path (.created choice occasion) later.tree
  | done {account : Account} {tree : Tree} {occasion : Occasion} {later : Desk} :
      History path account tree → occasion.request.path = path → account.FairOn occasion tree →
      occasion.run tree = .ok () later → History path (account.after occasion) later.tree
  | failed {account : Account} {tree : Tree} {occasion : Occasion} {failure : Failure CommandError} {later : Desk} :
      History path account tree → occasion.request.path = path → occasion.run tree = .error failure later →
      History path account later.tree

section Step

variable {account : Account} {path : String} {tree : Tree} {spot : Spot} {content : Bytes} {ring : Ring}
  {occasion : Occasion} {later : Desk}

theorem Passphrases.answer_of_ok {passphrases : Passphrases} {text : String} (given : passphrases.next.1 = .ok text) :
    passphrases.answer = text := by
  rw [answer, given]

/-- A command that fails changes nothing. -/
theorem Occasion.tree_of_error {failure : Failure CommandError} (ended : occasion.run tree = .error failure later) :
    later.tree = tree :=
  Session.run_spares ended rfl

theorem Account.kept_created {choice : KeyChoice} (asked : occasion.request = .create path choice)
    (finished : occasion.run tree = .ok () later) : (Account.created choice occasion).Kept path later.tree := by
  rw [Occasion.run, asked] at finished
  obtain ⟨-, passphrase, answer, kept⟩ := Account.kept_of_create finished
  rw [Account.created, Passphrases.answer_of_ok answer]
  exact kept

/-- A command that goes through leaves a keyring of the account after it. -/
theorem Account.Held.kept_after (held : account.Held path tree spot content ring)
    (about : occasion.request.path = path) (fairOn : account.FairOn occasion tree)
    (finished : occasion.run tree = .ok () later) : (account.after occasion).Kept path later.tree := by
  have fair : occasion.request.alters = true →
      ∀ passphrase, occasion.passphrases.next.1 = .ok passphrase → account.Fair content passphrase :=
    fun alters passphrase => fairOn alters content .ownerOnly passphrase (about ▸ held.node)
  have same : later.tree = tree → account.Kept path later.tree := by
    intro unchanged
    rw [unchanged]
    exact ⟨spot, content, ring, held⟩
  obtain ⟨request, emptyOk, world, passphrases⟩ := occasion
  subst about
  cases request with
  | create path choice =>
    -- The file is there already, so this cannot have gone through.
    obtain ⟨absent, -⟩ := Account.kept_of_create finished
    cases absent.symm.trans held.has
  | list path showKeys => exact same (Session.list_keeps finished)
  | add path choice activates => exact (held.add (fair rfl) finished).1
  | activate path id => exact held.activate (fair rfl) finished
  | rekey path =>
    obtain ⟨passphrase, answer, kept⟩ := held.rekey (fair rfl) finished
    rw [Account.after, Passphrases.answer_of_ok answer]
    exact kept
  | inspect path decrypt => exact same (Session.inspect_keeps finished)

/-- A passphrase that opens the data key as it is meant to be opened is fair. -/
theorem Account.Held.fairOn {passphrase : String} (held : account.Held path tree spot content ring)
    (about : occasion.request.path = path) (answer : occasion.passphrases.next.1 = .ok passphrase)
    (opened : account.OpenedBy content passphrase) : account.FairOn occasion tree := by
  intro _ found mode given there answered
  rw [about] at there
  cases held.node.symm.trans there
  cases answer.symm.trans answered
  exact opened.fair

/-- A command that gets as far as to open the file is refused with a passphrase that opens nothing. -/
theorem Account.Held.refuses_run {passphrase : String} (held : account.Held path tree spot content ring)
    (about : occasion.request.path = path) (answer : occasion.passphrases.next.1 = .ok passphrase)
    (closed : ∀ dataKey, ¬ Ring.DataKeyOpens content passphrase dataKey) (opens : occasion.Opens tree) :
    ∃ later, occasion.run tree = .error (.error occasion.request.refusal) later ∧
      later.world.output = occasion.world.output := by
  obtain ⟨request, emptyOk, world, passphrases⟩ := occasion
  subst about
  cases request with
  | create path choice => exact opens.elim
  | list path showKeys =>
    obtain ⟨later, output, refused⟩ := held.refuses answer closed world
    exact ⟨_, Action.bind_of_error refused _, output⟩
  | add path choice activates =>
    obtain ⟨key, _, made⟩ := opens
    obtain ⟨-, keyed, rfl, outputKeyed⟩ := Desk.newKey_eq_ok made
    obtain ⟨later, output, refused⟩ := held.refuses answer closed keyed
    exact ⟨_, (Action.bind_of_ok made _).trans (Action.bind_of_error refused _), output.trans outputKeyed⟩
  | activate path id =>
    obtain ⟨later, output, refused⟩ := held.refuses answer closed world
    exact ⟨_, Action.bind_of_error refused _, output⟩
  | rekey path =>
    obtain ⟨later, output, refused⟩ := held.refuses answer closed world
    exact ⟨_, Action.bind_of_error refused _, output⟩
  | inspect path decrypt =>
    cases opens
    exact held.refuses_inspect answer closed world

end Step

namespace History

variable {path : String} {account : Account} {tree : Tree}

/-- The account that is kept of a keyring is true of it all along. -/
theorem kept (history : History path account tree) : account.Kept path tree := by
  -- A command that goes through needs the ring in the file before it; one that fails has not touched the tree.
  induction history with
  | created asked finished => exact Account.kept_created asked finished
  | done _ about fairOn finished ih =>
    obtain ⟨spot, content, ring, held⟩ := ih
    exact held.kept_after about fairOn finished
  | failed _ _ ended ih =>
    rw [Occasion.tree_of_error ended]
    exact ih

/-- After any history, the file holds what the account of it says, and every further command does what the account
lets expect: with a passphrase that opens nothing it is refused, and with one that opens the data key, as the one set
last does, the keys are listed, an id is made active or found missing, and another passphrase is set. -/
theorem keeps_account (history : History path account tree) :
    ∃ content ring, tree.node path = .ok (.file content .ownerOnly) ∧
      Ring.ReadsAs content (.passphrase account.passphrase) ring ∧ account.States ring ∧
      account.OpenedBy content account.passphrase ∧
      ∀ occasion : Occasion, occasion.request.path = path →
        (∀ failure later, occasion.run tree = .error failure later → later.tree = tree) ∧
        (∀ choice activates later, occasion.request = .add path choice activates → account.FairOn occasion tree →
          occasion.run tree = .ok () later →
          History path (account.grown (choice.bytes occasion.world.supply) activates) later.tree ∧
            later.world.output =
              occasion.world.output ++ textBytes (account.growth (choice.bytes occasion.world.supply) activates)) ∧
        ∀ passphrase, occasion.passphrases.next.1 = .ok passphrase →
          ((∀ dataKey, ¬ Ring.DataKeyOpens content passphrase dataKey) → occasion.Opens tree →
            ∃ later, occasion.run tree = .error (.error occasion.request.refusal) later ∧
              later.world.output = occasion.world.output) ∧
          (account.OpenedBy content passphrase →
            (occasion.request = .list path true →
              ∃ later, occasion.run tree = .ok () later ∧ later.tree = tree ∧
                later.world.output = occasion.world.output ++ textBytes account.listing) ∧
            (∀ id, occasion.request = .activate path id →
              (1 ≤ id.toNat ∧ id.toNat ≤ account.keys.length → occasion.world.supply.Has Sealing.nonceLength →
                ∃ later, occasion.run tree = .ok () later ∧
                  History path { account with active := id.toNat } later.tree) ∧
              (¬ (1 ≤ id.toNat ∧ id.toNat ≤ account.keys.length) →
                ∃ later, occasion.run tree = .error (.error (.noSuchKey id)) later)) ∧
            ∀ next, occasion.request = .rekey path → occasion.passphrases.next.2.Offers occasion.emptyOk next →
              occasion.world.supply.Has (Derivation.saltLength + (Sealing.nonceLength + Sealing.nonceLength)) →
              ∃ later, occasion.run tree = .ok () later ∧
                History path { account with passphrase := next } later.tree) := by
  obtain ⟨spot, content, ring, held⟩ := history.kept
  refine ⟨content, ring, held.node, held.reads, held.stated, held.openedBy, ?_⟩
  intro occasion about
  refine ⟨fun failure later ended => Occasion.tree_of_error ended, ?_, fun passphrase answer => ⟨?_, fun opened => ?_⟩⟩
  · intro choice activates later asked fairOn finished
    have next := history.done about fairOn finished
    obtain ⟨request, emptyOk, world, passphrases⟩ := occasion
    cases asked
    have fair : ∀ passphrase, passphrases.next.1 = .ok passphrase → account.Fair content passphrase :=
      fun passphrase => fairOn rfl content .ownerOnly passphrase held.node
    exact ⟨next, (held.add fair finished).2⟩
  · exact fun closed opens => held.refuses_run about answer closed opens
  · have fairOn := held.fairOn about answer opened
    have heldUnder := held.under opened
    obtain ⟨request, emptyOk, world, passphrases⟩ := occasion
    refine ⟨?_, ?_, ?_⟩
    · rintro rfl
      exact heldUnder.list answer world
    · rintro id rfl
      constructor
      · intro stored enough
        obtain ⟨later, finished⟩ := heldUnder.activates answer stored enough
        exact ⟨later, finished, history.done about fairOn finished⟩
      · exact fun absent => heldUnder.noSuchKey answer absent world
    · rintro next rfl offers enough
      obtain ⟨later, finished⟩ := heldUnder.rekeys answer offers enough
      have done := history.done about fairOn finished
      obtain ⟨asked, left, given⟩ := offers world tree
      rw [Account.after, Passphrases.answer_of_ok (Desk.newPassphrase_eq_ok given).1] at done
      exact ⟨later, finished, done⟩

/-- A keyring of one key can be made in an empty tree. -/
theorem sample : ∃ tree, History "ring" ⟨[textBytes "k"], 1, "pw"⟩ tree := by
  have folder : Tree.checkFolder ⟨[], []⟩ (Path.folder "ring") = .ok () := rfl
  have places : Tree.Places ⟨[], []⟩ "ring" ["ring"] := ⟨rfl, rfl, rfl, by decide⟩
  have free : Tree.find? ⟨[], []⟩ ["ring"] = none := rfl
  have offers : (Passphrases.fixed "pw").Offers false "pw" := fun world _ => ⟨world, .fixed "pw", rfl⟩
  have made : Desk.newKey ⟨some "k", none⟩ (.boundless (Ring.worldFrom []) ⟨[], []⟩ (.fixed "pw")) =
      .ok (textBytes "k") (.boundless (Ring.worldFrom []) ⟨[], []⟩ (.fixed "pw")) := rfl
  obtain ⟨later, finished⟩ := Account.creates folder places free made offers (by decide) (by decide)
    ⟨by decide, by simp [Ring.worldFrom]⟩
  let occasion : Occasion := ⟨.create "ring" ⟨some "k", none⟩, false, Ring.worldFrom [], .fixed "pw"⟩
  have asked : occasion.request = .create "ring" ⟨some "k", none⟩ := rfl
  exact ⟨later.tree, .created asked finished⟩

/-- The keyring of one key is listed, has no second key, and is put under another passphrase. -/
theorem keeps_account_sample :
    ∃ tree, History "ring" ⟨[textBytes "k"], 1, "pw"⟩ tree ∧
      (∃ later, Occasion.run ⟨.list "ring" true, false, Ring.worldFrom [], .fixed "pw"⟩ tree = .ok () later ∧
        later.world.output = textBytes "# 1 total\n1: \"k\" [active]\n") ∧
      (∃ later, Occasion.run ⟨.activate "ring" 2, false, Ring.worldFrom [], .fixed "pw"⟩ tree =
        .error (.error (.noSuchKey 2)) later) ∧
      ∃ later, Occasion.run
          ⟨.rekey "ring", false, Ring.worldFrom [], .lines (textBytes "pw\nnew\nnew\n")⟩ tree = .ok () later ∧
        History "ring" ⟨[textBytes "k"], 1, "new"⟩ later.tree := by
  obtain ⟨tree, history⟩ := sample
  obtain ⟨content, ring, -, -, -, current, commands⟩ := keeps_account history
  obtain ⟨-, -, lists⟩ := commands ⟨.list "ring" true, false, Ring.worldFrom [], .fixed "pw"⟩ rfl
  obtain ⟨-, -, activates⟩ := commands ⟨.activate "ring" 2, false, Ring.worldFrom [], .fixed "pw"⟩ rfl
  obtain ⟨-, -, rekeys⟩ :=
    commands ⟨.rekey "ring", false, Ring.worldFrom [], .lines (textBytes "pw\nnew\nnew\n")⟩ rfl
  obtain ⟨listed, finished, -, output⟩ := ((lists "pw" rfl).2 current).1 rfl
  have offers : (Passphrases.lines (textBytes "new\nnew\n")).Offers false "new" := fun _ _ => ⟨_, _, rfl⟩
  refine ⟨tree, history, ⟨listed, finished, output⟩, ?_, ?_⟩
  · exact (((activates "pw" rfl).2 current).2.1 2 rfl).2 (by decide)
  · exact ((rekeys "pw" rfl).2 current).2.2 "new" rfl offers ⟨by decide, by simp [Ring.worldFrom]⟩

/-- Random bytes under which a keyring made with the passphrase "pw" opens under "other" too, but to another data key
and with that to another bundle: a key of 32 bytes, a salt, a data key, and a nonce for each of both seals. -/
def collision : Bytes :=
  [125, 242, 187, 141, 213, 60, 222, 10, 56, 109, 239, 208, 158, 116, 246, 47, 117, 157, 32, 109, 78, 162, 175, 129,
    111, 132, 156, 18, 130, 32, 194, 176] ++
  List.replicate 32 0 ++
  (2 :: List.replicate 15 0 ++ [14, 30, 146, 187, 97, 219, 182, 156, 139, 237, 49, 66, 113, 233, 133, 169]) ++
  List.replicate 24 0 ++
  (List.replicate 16 0 ++ [110, 180, 54, 0, 0, 0, 0, 0])

/-- A seal under one key can be opened under another one. What is made as a keyring of one key may therefore be added
to as another keyring, whose largest id is 5, and can no longer be listed under its own passphrase then. -/
theorem keeps_account_collision :
    let making : Occasion := ⟨.create "ring" ⟨none, some 32⟩, false, Ring.worldFrom collision, .fixed "pw"⟩
    let adding : Occasion := ⟨.add "ring" ⟨some "k", none⟩ false, false, Ring.worldFrom [], .fixed "other"⟩
    let listing : Occasion := ⟨.list "ring" true, false, Ring.worldFrom [], .fixed "pw"⟩
    ∃ made added refused,
      making.run ⟨[], []⟩ = .ok () made ∧ History "ring" ⟨[collision.take 32], 1, "pw"⟩ made.tree ∧
        adding.run made.tree = .ok () added ∧ added.world.output = textBytes "Added key id 6 (1 bytes)\n" ∧
        listing.run added.tree = .error (.error (.ring .refused)) refused := by
  intro making adding listing
  have outcome : ((making.desk? ⟨[], []⟩).bind fun made => (adding.desk? made.tree).map fun added =>
      (added.world.output, listing.cause? added.tree)) =
      some (textBytes "Added key id 6 (1 bytes)\n", some (.ring .refused)) := by
    decide +kernel
  obtain ⟨made, makes, rest⟩ := Option.bind_eq_some_iff.mp outcome
  obtain ⟨added, adds, same⟩ := Option.map_eq_some_iff.mp rest
  obtain ⟨output, cause⟩ := Prod.mk.inj same
  obtain ⟨refused, refuses⟩ := Occasion.cause?_eq_some_iff.mp cause
  have finished := Occasion.desk?_eq_some_iff.mp makes
  have history : History "ring" (.created ⟨none, some 32⟩ making) made.tree := .created rfl finished
  have account : Account.created ⟨none, some 32⟩ making = ⟨[collision.take 32], 1, "pw"⟩ := by
    rw [Account.created]
    rfl
  rw [account] at history
  exact ⟨made, added, refused, finished, history, Occasion.desk?_eq_some_iff.mp adds, output, refuses⟩

end History

end Keyring
