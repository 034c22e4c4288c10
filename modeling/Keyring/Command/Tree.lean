import Keyring.Command.Path
import Keyring.Stream

namespace Keyring

/-- Who may use a file. -/
inductive Mode where
  | shared
  | ownerOnly
  deriving DecidableEq, Repr

/-- The mode in octal digits. -/
def Mode.text : Mode → String
  | shared => "644"
  | ownerOnly => "600"

inductive Node where
  | file (content : Bytes) (mode : Mode)
  | folder
  deriving DecidableEq

/-- A place in a tree: the names that lead to it from the top. -/
abbrev Spot := List String

/-- Files and folders. There are no symbolic links, any folder can be entered and any file read, and the disk neither
fills up nor fails. -/
structure Tree where
  nodes : List (Spot × Node)
  /-- The folder from which a path starts, unless it starts with a slash. -/
  home : Spot

namespace Tree

/-- The node at a place. The top is a folder. -/
def find? (tree : Tree) (spot : Spot) : Option Node :=
  if spot = [] then some .folder else tree.nodes.lookup spot

/-- The tree with another node at a place. -/
def put (tree : Tree) (spot : Spot) (node : Node) : Tree :=
  if (tree.nodes.lookup spot).isSome then
    { tree with
      nodes := tree.nodes.map fun entry => if entry.1 = spot then (spot, node) else entry }
  else { tree with nodes := tree.nodes ++ [(spot, node)] }

/-- The longest name that a node can have. -/
def maxName : Nat := 255

/-- The length that no path reaches. -/
def pathLimit : Nat := 4096

/-- Follows the pieces of a path from a place on. All that is passed through must be folders. Two
dots lead to the folder around, and at the top nowhere else. -/
def walk (tree : Tree) (spot : Spot) : List String → Except IoFailure Spot
  | [] => .ok spot
  | piece :: rest =>
    match tree.find? spot with
    | none => .error .notFound
    | some (.file _ _) => .error .notDirectory
    | some .folder =>
      if Path.isIdle piece then tree.walk spot rest
      else if piece = ".." then tree.walk spot.dropLast rest
      else if maxName < piece.utf8ByteSize then .error .nameTooLong
      else tree.walk (spot ++ [piece]) rest

/-- The place that a path starts from. -/
def start (tree : Tree) (path : String) : Spot :=
  if Path.isAbsolute path then [] else tree.home

/-- The place that a path leads to. -/
def spot (tree : Tree) (path : String) : Except IoFailure Spot :=
  tree.walk (tree.start path) (Path.pieces path)

/-- Refuses what cannot be a path. -/
def checkPath (path : String) : Except IoFailure Unit :=
  if path.toList.contains '\x00' then .error .nulInPath
  else if path = "" then .error .notFound
  else if pathLimit ≤ path.utf8ByteSize then .error .nameTooLong
  else .ok ()

/-- The node that a path leads to. -/
def node (tree : Tree) (path : String) : Except IoFailure Node := do
  checkPath path
  let spot ← tree.spot path
  match tree.find? spot with
  | some node => .ok node
  | none => .error .notFound

/-- Whether a path leads anywhere. -/
def has (tree : Tree) (path : String) : Bool :=
  (tree.node path).toBool

/-- The source that opening a path gives. A folder can be opened, but not read. -/
def source (tree : Tree) (path : String) : Except IoFailure Source :=
  (tree.node path).map fun
    | .file content _ => .ofBytes content
    | .folder => ⟨[], some .isDirectory⟩

/-- A name for a new file that is moved later. Six letters of it are left to chance. -/
def newName : String := ".tmpXXXXXX"

/-- The full path of a new file in a folder. -/
def newPath (tree : Tree) (folder : String) : String :=
  let full := if Path.isAbsolute folder then folder else Path.ofSpot tree.home ++ "/" ++ folder
  full ++ "/" ++ newName

/-- Whether a new file can be made in a folder. -/
def checkFolder (tree : Tree) (folder : String) : Except IoFailure Unit := do
  let path := tree.newPath folder
  checkPath path
  let _ ← tree.spot path
  return ()

/-- Moves a new file to a path, for its owner only. A file that is there already is replaced,
unless `fresh` asks for a path that leads nowhere. -/
def place (tree : Tree) (path : String) (content : Bytes) (fresh : Bool) :
    Except IoFailure Tree := do
  checkPath path
  let pieces := Path.pieces path
  let named := (pieces.reverse.dropWhile (· = "")).reverse
  let spot ← tree.walk (tree.start path) named
  let taken := tree.find? spot
  if fresh ∧ taken.isSome then
    .error .alreadyThere
  else if named ≠ pieces then
    .error .notDirectory
  else if taken = some .folder then
    .error .isDirectory
  else
    return tree.put spot (.file content .ownerOnly)

/-- Every file below the home folder, by its path from there. -/
def files (tree : Tree) : List (String × Bytes × Mode) :=
  tree.nodes.filterMap fun entry =>
    match entry.2, tree.home.isPrefixOf entry.1 with
    | .file content mode, true =>
      some ("/".intercalate (entry.1.drop tree.home.length), content, mode)
    | _, _ => none

/-- A tree with a folder at a place, and at all places that lead there. -/
def addFolder (tree : Tree) (spot : Spot) : Tree :=
  (List.range (spot.length + 1)).foldl
    (fun grown count =>
      let part := spot.take count
      if (grown.find? part).isSome then grown else grown.put part .folder)
    tree

/-- The place that a path names when all that it passes through are folders. -/
def namedSpot (tree : Tree) (path : String) : Spot :=
  (Path.pieces path).foldl
    (fun spot piece =>
      if Path.isIdle piece then spot
      else if piece = ".." then spot.dropLast
      else spot ++ [piece])
    (tree.start path)

/-- The tree that holds some folders and some files that all may use. -/
def ofListing (home : Spot) (folders : List String) (files : List (String × Bytes)) : Tree :=
  let grown := folders.foldl (fun tree path => tree.addFolder (tree.namedSpot path))
    ((⟨[], home⟩ : Tree).addFolder home)
  files.foldl
    (fun tree file =>
      let spot := tree.namedSpot file.1
      (tree.addFolder spot.dropLast).put spot (.file file.2 .shared))
    grown

end Tree

end Keyring
