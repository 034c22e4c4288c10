import Keyring.Command.Desk
import Keyring.Command.Listing

namespace Keyring.Session

/-- Reads the keyring at a path with the passphrase that is asked for. -/
def openRing (path : String) : DeskAction Ring := do
  let desk ← get
  let source ← Desk.ofFile path (desk.tree.source path)
  let passphrase ← Desk.askPassphrase "Passphrase: "
  let ring ← Desk.onRing (Ring.read source (.passphrase passphrase))
  Desk.log (.ofSession "opened keyring" [("path", path), ("keys", toString ring.length)])
  return ring

/-- Writes a keyring to a new file and moves that to the path. A path that leads somewhere is
replaced, unless `fresh` is set. The new file takes all bytes, and nothing goes wrong in writing it out to the disk
or in making it the owner's. -/
def save (path : String) (ring : Ring) (fresh : Bool) : DeskAction Unit := do
  let folder := Path.folder path
  let desk ← get
  Desk.ofFile folder (desk.tree.checkFolder folder)
  let delivery ← Desk.onRing (ring.write .boundless)
  let written ← Action.ofExcept (delivery.written.mapError fun cause => .ring (.io cause))
  let tree ← Desk.ofFile path (desk.tree.place path delivery.received fresh)
  modify fun desk => { desk with tree := tree }
  Desk.log (.ofSession "saved keyring" [("path", path), ("bytes", toString written)])
  Desk.note s!"Wrote {written} bytes to {Quoted.ofString (Path.displayName path)}\n"

/-- Makes a keyring with one key at a path that leads nowhere. -/
def create (emptyOk : Bool) (path : String) (choice : KeyChoice) : DeskAction Unit := do
  let desk ← get
  if desk.tree.has path then
    Action.fail (.alreadyThere path)
  let key ← Desk.newKey choice
  let passphrase ← Desk.newPassphrase emptyOk
  let (accessKey, salt) ← Desk.onWorld (Derivation.newAccessKey (textBytes passphrase))
  let ring ← Desk.onRing (Ring.new ⟨key, accessKey, some salt⟩)
  save path ring true

/-- Lists the keys by id, with their lengths or their contents. -/
def list (path : String) (showKeys : Bool) : DeskAction Unit := do
  let ring ← openRing path
  Desk.print (Listing.ofView showKeys ring.view)

/-- Adds a key, and makes it the active one if that is asked for. -/
def add (path : String) (choice : KeyChoice) (activate : Bool) : DeskAction Unit := do
  let key ← Desk.newKey choice
  let ring ← openRing path
  let (id, ring) ← Desk.onRing (ring.add key)
  Desk.print s!"Added key id {id.toNat} ({key.length} bytes)\n"
  if activate then
    let ring ← Desk.onRing (ring.activate id)
    Desk.print s!"Activated new key id {id.toNat}\n"
    save path ring false
  else
    save path ring false

/-- Makes a stored key the active one. -/
def activate (path : String) (id : KeyId) : DeskAction Unit := do
  let ring ← openRing path
  if !ring.has id then
    Action.fail (.noSuchKey id)
  if ring.activeId = id then
    Desk.note s!"Key id {id.toNat} is already active\n"
  else
    let ring ← Desk.onRing (ring.activate id)
    Desk.print s!"Activated key id {id.toNat}\n"
    save path ring false

/-- Puts a keyring under a new passphrase and a new salt. -/
def rekey (emptyOk : Bool) (path : String) : DeskAction Unit := do
  let ring ← openRing path
  let passphrase ← Desk.newPassphrase emptyOk
  let (accessKey, salt) ← Desk.onWorld (Derivation.newAccessKey (textBytes passphrase))
  let ring ← Desk.onRing (ring.rekey accessKey (some salt))
  Desk.print s!"Rekeyed {Path.displayName path}\n"
  save path ring false

/-- The data key of a container, opened with the passphrase that is asked for. -/
def unlock (container : Container) : DeskAction Bytes := do
  let wrappedKey ←
    match Ring.content? .dataKey container.packets with
    | some content => pure content
    | none => Action.fail .noDataKey
  let salt := (Ring.content? .salt container.packets).getD []
  Desk.note "Found encrypted bundles, passphrase required to decrypt\n"
  let passphrase ← Desk.askPassphrase "Passphrase: "
  let accessKey := Credential.key (.passphrase passphrase) salt
  let dataKey ← Desk.onWorld (Action.mapCause .unlock (Ring.openContent accessKey wrappedKey))
  Desk.note "Unlocked data storage key\n"
  return dataKey

/-- Shows the parts of the file at a path, with its bundles opened if `decrypt` asks for it. -/
def inspect (path : String) (decrypt : Bool) : DeskAction Unit := do
  let desk ← get
  let source ← Desk.ofFile path (desk.tree.source path)
  let data ← Desk.ofFile path source.contents
  let container ←
    Action.ofExcept ((Container.parse data).mapError fun stopped => .malformed stopped.damage)
  let hasBundle := container.packets.any (·.type = .bundle)
  let dataKey ← if decrypt && hasBundle then some <$> unlock container else pure none
  let listing := Listing.ofContainer dataKey container
  Desk.print listing.text
  match listing.stop with
  | none => pure ()
  | some cause => Action.fail cause

/-- Does what a request asks for. -/
def run (emptyOk : Bool) : Request → DeskAction Unit
  | .create path key => create emptyOk path key
  | .list path showKeys => list path showKeys
  | .add path key activates => add path key activates
  | .activate path id => activate path id
  | .rekey path => rekey emptyOk path
  | .inspect path decrypt => inspect path decrypt

end Keyring.Session
