import Keyring.Proofs.Discretion
import Keyring.Proofs.Footprint

namespace Keyring

open Keyring.Action

/-- Requests that differ in nothing but the bytes of a key, and that do not ask for keys to be shown. -/
inductive Request.Alike : Request → Request → Prop
  | create (path : String) {choice other : KeyChoice} : choice.Alike other →
    Alike (.create path choice) (.create path other)
  | list (path : String) : Alike (.list path false) (.list path false)
  | add (path : String) {choice other : KeyChoice} (activates : Bool) : choice.Alike other →
    Alike (.add path choice activates) (.add path other activates)
  | activate (path : String) (id : KeyId) : Alike (.activate path id) (.activate path id)
  | rekey (path : String) : Alike (.rekey path) (.rekey path)

namespace Request

/-- What comes of the passphrase that a keyring is opened with, if the request gets as far as that. -/
def trial? (dataKeys : Spot → Bytes) (desk : Desk) : Request → Option Trial
  | .create _ _ | .inspect _ _ => none
  | .list path _ | .activate path _ | .rekey path => desk.trial? dataKeys path
  | .add path choice _ =>
    match Desk.newKey choice desk with
    | .ok _ later => later.trial? dataKeys path
    | .error _ _ => none

/-- The data keys that belong to the places after a request. A keyring that is made at a free place has its own. -/
def dataKeysAfter (emptyOk : Bool) (dataKeys : Spot → Bytes) (desk : Desk) : Request → Spot → Bytes
  | .create path choice =>
    match desk.tree.spot path, Session.found emptyOk choice desk with
    | .ok spot, .ok ring _ =>
      if (desk.tree.find? spot).isSome then dataKeys else Function.update dataKeys spot ring.dataKey.bytes
    | _, _ => dataKeys
  | _ => dataKeys

theorem dataKeysAfter_of_found {emptyOk : Bool} {dataKeys : Spot → Bytes} {desk later : Desk} {path : String}
    {choice : KeyChoice} {spot : Spot} {ring : Ring} (leads : desk.tree.spot path = .ok spot)
    (free : (desk.tree.find? spot).isSome = false) (made : Session.found emptyOk choice desk = .ok ring later) :
    (create path choice).dataKeysAfter emptyOk dataKeys desk = Function.update dataKeys spot ring.dataKey.bytes := by
  rw [dataKeysAfter, leads, made]
  dsimp only
  rw [free]
  rfl

end Request

section Requests

open Desk Session

variable {dataKeys dataKeys' : Spot → Bytes} {desk twin : Desk} (twins : desk.Twin dataKeys dataKeys' twin)
  (emptyOk : Bool) (path : String)
include twins

/-- The data key of a keyring can be set down for its place before the keyring is placed there. -/
theorem Request.twin_dataKeysAfter {choice other : KeyChoice} (alike : choice.Alike other) :
    desk.tree.Twin ((create path choice).dataKeysAfter emptyOk dataKeys desk)
      ((create path other).dataKeysAfter emptyOk dataKeys' twin) twin.tree := by
  have ends := meets_found alike emptyOk desk twin twins.beside
  unfold dataKeysAfter
  dsimp only
  rw [← twins.trees.spot]
  generalize found emptyOk choice desk = mine at ends ⊢
  generalize found emptyOk other twin = yours at ends ⊢
  cases desk.tree.spot path with
  | error cause => exact twins.trees
  | ok spot =>
    cases ends with
    | failed => exact twins.trees
    | done =>
      dsimp only
      rw [← twins.trees.isSome]
      split
      · exact twins.trees
      next free => exact twins.trees.update (Option.not_isSome_iff_eq_none.mp free) _ _

theorem Session.ends_create {choice other : KeyChoice} (alike : choice.Alike other) :
    Ends (Desk.Twin ((Request.create path choice).dataKeysAfter emptyOk dataKeys desk)
        ((Request.create path other).dataKeysAfter emptyOk dataKeys' twin)) (fun _ _ => True)
      (create emptyOk path choice desk) (create emptyOk path other twin) := by
  have trees := Request.twin_dataKeysAfter twins emptyOk path alike
  have has := twins.trees.has path
  cases there : desk.tree.has path with
  | true =>
    rw [create_of_has there, create_of_has (has ▸ there)]
    exact .failed _ (twins.beside.toTwin trees)
  | false =>
    rw [create_of_free there, create_of_free (has ▸ there)]
    refine Ends.bind (meets_found alike emptyOk _ _ twins.beside) (fun _ _ beside => beside.toTwin trees) ?_
    intro ring ring' later later' made madeToo rings beside
    refine (ends_save beside twins.trees rings path true).mono fun last last' saved => ?_
    cases saved with
    | not beside => exact beside.toTwin trees
    | @placed spot content content' places free resembles beside =>
      have gone : (desk.tree.find? spot).isSome = false := by
        rw [free rfl]
        rfl
      have leads := places.leads
      rw [Request.dataKeysAfter_of_found leads gone made]
      rw [twins.trees.spot] at leads
      rw [twins.trees.isSome] at gone
      rw [Request.dataKeysAfter_of_found leads gone madeToo]
      exact beside.toTwin (twins.trees.put places.below .ownerOnly resembles)

end Requests

/-- Commands that are alike end alike, if the passphrases open the keyrings in both runs or in neither. -/
theorem Request.Alike.ends_run {request other : Request} (alike : request.Alike other)
    {dataKeys dataKeys' : Spot → Bytes} {desk twin : Desk} (twins : desk.Twin dataKeys dataKeys' twin)
    (same : request.trial? dataKeys desk = other.trial? dataKeys' twin)
    (fair : request.trial? dataKeys desk ≠ some .chance) (emptyOk : Bool) :
    Ends (Desk.Twin (request.dataKeysAfter emptyOk dataKeys desk) (other.dataKeysAfter emptyOk dataKeys' twin))
      (fun _ _ => True) (Session.run emptyOk request desk) (Session.run emptyOk other twin) := by
  cases alike with
  | create path choices => exact Session.ends_create twins emptyOk path choices
  | list path => exact Session.ends_list twins same fair
  | add path activates choices =>
    refine Session.ends_add twins choices activates (fun key key' later later' chosen chosenToo => ?_)
      fun key later chosen => ?_
    · simpa only [trial?, chosen, chosenToo] using same
    · simpa only [trial?, chosen] using fair
  | activate path id => exact Session.ends_activate twins same fair id
  | rekey path => exact Session.ends_rekey twins same fair emptyOk

/-- What a session works with beside the files. -/
structure Seat where
  supply : Supply
  passphrases : Passphrases
  /-- How many more bytes of answers go out, if not any number. -/
  answerRoom : Option Nat
  /-- How many more bytes of notes go out, if not any number. -/
  noteRoom : Option Nat

/-- Seats that differ in nothing but the random bytes and the passphrases. -/
structure Seat.Alike (seat other : Seat) : Prop where
  drawn : seat.supply.drawn = other.supply.drawn
  limit : seat.supply.limit = other.supply.limit
  passphrases : seat.passphrases.Alike other.passphrases
  answerRoom : seat.answerRoom = other.answerRoom
  noteRoom : seat.noteRoom = other.noteRoom

def Desk.seat (desk : Desk) : Seat :=
  ⟨desk.world.supply, desk.passphrases, desk.answerRoom, desk.noteRoom⟩

theorem Desk.Twin.seats {dataKeys dataKeys' : Spot → Bytes} {desk twin : Desk}
    (twins : desk.Twin dataKeys dataKeys' twin) : desk.seat.Alike twin.seat where
  drawn := twins.beside.worlds.drawn
  limit := twins.beside.worlds.limit
  passphrases := twins.beside.passphrases
  answerRoom := twins.beside.answerRoom
  noteRoom := twins.beside.noteRoom

/-- A command, in a session of its own if a seat is given, and else in the session at work. -/
structure Errand where
  seat : Option Seat
  emptyOk : Bool
  request : Request

/-- Errands that differ in nothing but the bytes of keys, the random bytes and the passphrases. -/
structure Errand.Alike (errand other : Errand) : Prop where
  seats : Option.Rel Seat.Alike errand.seat other.seat
  emptyOk : errand.emptyOk = other.emptyOk
  requests : errand.request.Alike other.request

/-- The files, the data keys that belong to their places, and the seat of the session at work. -/
structure Custody where
  tree : Tree
  dataKeys : Spot → Bytes
  seat : Seat

structure Custody.Twin (custody twin : Custody) : Prop where
  trees : custody.tree.Twin custody.dataKeys twin.dataKeys twin.tree
  seats : custody.seat.Alike twin.seat

namespace Errand

/-- The desk at which the command is run. Nothing has been done there. -/
def desk (errand : Errand) (custody : Custody) : Desk :=
  let seat := errand.seat.getD custody.seat
  ⟨⟨seat.supply, #[]⟩, custody.tree, seat.passphrases, seat.answerRoom, seat.noteRoom⟩

/-- What comes of a command: how it ends, and all that is printed, noted, logged and prompted, in order. -/
structure Report where
  outcome : Except (Failure CommandError) Unit
  shown : List Mark

/-- Runs the command and reports on it. -/
def perform (errand : Errand) (custody : Custody) : Report × Custody :=
  let desk := errand.desk custody
  let dataKeys := errand.request.dataKeysAfter errand.emptyOk custody.dataKeys desk
  match Session.run errand.emptyOk errand.request desk with
  | .ok () later => (⟨.ok (), later.world.shown⟩, ⟨later.tree, dataKeys, later.seat⟩)
  | .error failure later => (⟨.error failure, later.world.shown⟩, ⟨later.tree, dataKeys, later.seat⟩)

def trial? (errand : Errand) (custody : Custody) : Option Trial :=
  errand.request.trial? custody.dataKeys (errand.desk custody)

def run : List Errand → Custody → List Report
  | [], _ => []
  | errand :: rest, custody =>
    let (report, next) := errand.perform custody
    report :: run rest next

/-- What comes of the passphrases with which the commands open keyrings. -/
def trials : List Errand → Custody → List (Option Trial)
  | [], _ => []
  | errand :: rest, custody => errand.trial? custody :: trials rest (errand.perform custody).2

variable {errand other : Errand} {custody twin : Custody}

theorem Alike.twin_desk (alike : errand.Alike other) (twins : custody.Twin twin) :
    (errand.desk custody).Twin custody.dataKeys twin.dataKeys (other.desk twin) := by
  have seats : (errand.seat.getD custody.seat).Alike (other.seat.getD twin.seat) := by
    have own := alike.seats
    generalize errand.seat = mine at own ⊢
    generalize other.seat = yours at own ⊢
    cases own with
    | none => exact twins.seats
    | some seats => exact seats
  refine ⟨twins.trees, rfl, rfl, ⟨seats.drawn, seats.limit, rfl⟩, seats.passphrases, seats.answerRoom, seats.noteRoom⟩

/-- One command of two runs gives the same report, and leaves them in twin. -/
theorem Alike.perform (alike : errand.Alike other) (twins : custody.Twin twin)
    (same : errand.trial? custody = other.trial? twin) (fair : errand.trial? custody ≠ some .chance) :
    (errand.perform custody).1 = (other.perform twin).1 ∧ (errand.perform custody).2.Twin (other.perform twin).2 := by
  have ends := alike.requests.ends_run (alike.twin_desk twins) same fair errand.emptyOk
  unfold Errand.perform
  dsimp only
  rw [← alike.emptyOk]
  generalize Session.run errand.emptyOk errand.request (errand.desk custody) = mine at ends ⊢
  generalize Session.run errand.emptyOk other.request (other.desk twin) = yours at ends ⊢
  cases ends with
  | done _ laters => exact ⟨congrArg (Report.mk _) laters.beside.worlds.shown, laters.trees, laters.seats⟩
  | failed failure laters => exact ⟨congrArg (Report.mk _) laters.beside.worlds.shown, laters.trees, laters.seats⟩

theorem run_alike {errands others : List Errand} (alike : List.Forall₂ Alike errands others)
    (twins : custody.Twin twin) (same : trials errands custody = trials others twin)
    (fair : some .chance ∉ trials errands custody) : run errands custody = run others twin := by
  induction alike generalizing custody twin with
  | nil => rfl
  | @cons errand other rest behind here _ ih =>
    rw [trials, trials] at same
    rw [trials, List.mem_cons, not_or] at fair
    obtain ⟨now, later⟩ := List.cons.inj same
    obtain ⟨reports, nexts⟩ := here.perform twins now (Ne.symm fair.1)
    rw [run, run]
    exact congrArg₂ List.cons reports (ih nexts later fair.2)

section Sample

end Sample

end Errand

end Keyring
