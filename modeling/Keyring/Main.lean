import Keyring.Command.Program

namespace Keyring.Main

/-- Most random bytes that are fetched at once. -/
def randomLimit : Nat := 0x4000000

def isFolder (path : String) : IO Bool := do
  try
    let place ← IO.FS.realPath path
    place.isDir
  catch _ =>
    return false

/-- What there is at a path, and at the places that it passes through. -/
def observe (path : String) : IO Tree := do
  let pieces := Path.pieces path
  let home := (Path.pieces (← IO.currentDir).toString).filter (· ≠ "")
  let mut folders := []
  let mut files := []
  for count in List.range (pieces.length + 1) do
    let part := "/".intercalate (pieces.take count)
    if ← isFolder part then
      folders := folders ++ [part]
    else
      try
        let content ← IO.FS.readBinFile part
        files := files ++ [(part, content.toList)]
      catch _ =>
        pure ()
  return Tree.ofListing home folders files

/-- Puts a file that was saved in the tree at its path. -/
def store (path : String) (tree : Tree) : IO Unit := do
  match tree.node path with
  | .ok (.file content .ownerOnly) =>
    let fresh := Path.folder path ++ "/." ++ Path.displayName path ++ ".new"
    IO.FS.writeBinFile fresh ⟨content.toArray⟩
    IO.setAccessRights fresh { user := { read := true, write := true } }
    IO.FS.rename fresh path
  | _ => pure ()

/-- The random bytes that a request can use up. -/
def supplyFor (request : Request) : IO Supply := do
  let bytes ← IO.getRandomBytes (min (Program.randomNeed request) randomLimit).toUSize
  return ⟨fun i => bytes.data.getD i 0, 0, some bytes.size⟩

/-- Runs the program for the words of a command line. -/
def run (words : List String) : IO UInt32 := do
  match Invocation.parse words with
  | .error cause =>
    if cause = .version then
      IO.println "keyring 0.1.0"
    else
      IO.eprintln "usage: keyring create|list|add|activate|rekey|debug parse <path> ..."
    return cause.exitCode.toUInt32
  | .ok invocation =>
    let path := invocation.request.path
    let passphrase ← IO.getEnv Program.passphraseVariable
    let logFilter ← IO.getEnv Program.filterVariable
    let input ← if passphrase.isSome then pure ByteArray.empty else (← IO.getStdin).readBinToEnd
    let supply ← supplyFor invocation.request
    match Program.run ⟨words, passphrase, logFilter, input.toList⟩ supply (← observe path) with
    | .error cause => return cause.exitCode.toUInt32
    | .ok ending =>
      store path ending.tree
      (← IO.getStdout).write ⟨ending.output.toArray⟩
      (← IO.getStderr).write ⟨ending.errors.toArray⟩
      return ending.code.toUInt32

end Keyring.Main

def main (words : List String) : IO UInt32 :=
  Keyring.Main.run words
