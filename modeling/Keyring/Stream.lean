import Keyring.Text.Hex

namespace Keyring

/-- Why a file or a stream failed. -/
inductive IoFailure where
  | notFound
  | alreadyThere
  | notDirectory
  | isDirectory
  | nameTooLong
  /-- A path holds a zero byte. -/
  | nulInPath
  /-- Bytes that should be text are not UTF-8. -/
  | notText
  /-- The far end took no more bytes. -/
  | tookNothing
  /-- For a reason of its own. -/
  | other (reason : String)
  deriving DecidableEq, Repr

namespace IoFailure

def message : IoFailure → String
  | notFound => "No such file or directory (os error 2)"
  | alreadyThere => "File exists (os error 17)"
  | notDirectory => "Not a directory (os error 20)"
  | isDirectory => "Is a directory (os error 21)"
  | nameTooLong => "File name too long (os error 36)"
  | nulInPath => "file name contained an unexpected NUL byte"
  | notText => "stream did not contain valid UTF-8"
  | tookNothing => "failed to write whole buffer"
  | other reason => reason

/-- The failure with its fields, as a log shows it. -/
def detail : IoFailure → String
  | notFound => system 2 "NotFound" "No such file or directory"
  | alreadyThere => system 17 "AlreadyExists" "File exists"
  | notDirectory => system 20 "NotADirectory" "Not a directory"
  | isDirectory => system 21 "IsADirectory" "Is a directory"
  | nameTooLong => system 36 "InvalidFilename" "File name too long"
  | nulInPath => plain "Error" "InvalidInput" "message" nulInPath.message
  | notText => plain "Error" "InvalidData" "message" notText.message
  | tookNothing => plain "Error" "WriteZero" "message" tookNothing.message
  | other reason => plain "Custom" "Other" "error" reason
where
  system (code : Nat) (kind text : String) : String :=
    s!"Os \x7b code: {code}, kind: {kind}, message: \"{text}\" \x7d"
  plain (name kind label text : String) : String :=
    s!"{name} \x7b kind: {kind}, {label}: \"{text}\" \x7d"

end IoFailure

/-- What a reader of bytes is given, call by call. An empty chunk means the end. -/
structure Source where
  chunks : List Bytes
  /-- How the call after the last chunk fails; without one it means the end. -/
  failure : Option IoFailure

namespace Source

/-- A source that gives all its bytes. -/
def ofBytes (data : Bytes) : Source :=
  ⟨[data], none⟩

/-- A source that gives at most `chunk` bytes a call, and fails once `failAfter` are given. -/
def paced (data : Bytes) (chunk failAfter : Option Nat) (failure : IoFailure) : Source :=
  let chunks :=
    match chunk with
    | none => [data]
    | some 0 => [[]]
    | some size => rows size data
  match failAfter with
  | none => ⟨chunks, none⟩
  | some count =>
    if count = 0 then ⟨[], some failure⟩
    else if count ≤ data.length then ⟨chunks, some failure⟩
    else ⟨chunks, none⟩

/-- All bytes up to the end. -/
def contents (source : Source) : Except IoFailure Bytes :=
  if source.chunks.any List.isEmpty then
    .ok (joined (source.chunks.takeWhile fun chunk => !chunk.isEmpty))
  else
    match source.failure with
    | none => .ok (joined source.chunks)
    | some failure => .error failure

end Source

/-- A taker of bytes. -/
structure Sink where
  /-- How many bytes it takes, if not all. -/
  room : Option Nat
  /-- How it fails when the room is used up. -/
  refusal : IoFailure

namespace Sink

/-- A sink that takes everything. -/
def boundless : Sink :=
  ⟨none, .tookNothing⟩

/-- The part of some bytes that the sink takes, and whether that is all of them. -/
def take (sink : Sink) (data : Bytes) : Bytes × Except IoFailure Unit :=
  match sink.room with
  | none => (data, .ok ())
  | some room => (data.take room, if room < data.length then .error sink.refusal else .ok ())

end Sink

end Keyring
