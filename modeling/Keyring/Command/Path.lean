namespace Keyring.Path

/-- The pieces of a path between its slashes. -/
def pieces (path : String) : List String :=
  (path.toList.splitOn '/').map String.ofList

/-- Whether a path starts at the top. -/
def isAbsolute (path : String) : Bool :=
  path.toList.head? = some '/'

/-- The path that leads through some names, one after the other, from the top. -/
def ofSpot (names : List String) : String :=
  String.join (names.map fun name => "/" ++ name)

/-- A piece that names nothing: no text, or the dot of the folder itself. -/
def isIdle (piece : String) : Bool :=
  piece = "" ∨ piece = "."

/-- The pieces without those that name nothing at the end. -/
def trim (pieces : List String) : List String :=
  (pieces.reverse.dropWhile isIdle).reverse

/-- The last name of a path, if it ends in one. -/
def fileName? (path : String) : Option String :=
  match (trim (pieces path)).getLast? with
  | some ".." => none
  | last => last

/-- What a path is called in a message: its last name, or the whole path if it has none. -/
def displayName (path : String) : String :=
  (fileName? path).getD path

/-- The folder part of a path, as it is written; the dot if there is none. Idle pieces at its end
go, but a dot in front stays. -/
def folder (path : String) : String :=
  let named := trim (pieces path)
  let parent := named.dropLast
  let kept := trim parent
  let text := "/".intercalate (if kept.isEmpty then parent.take 1 else kept)
  if text ≠ "" then text
  else if named ≠ [] ∧ isAbsolute path then "/"
  else "."

end Keyring.Path
