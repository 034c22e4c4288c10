import Keyring.Command.Error
import Keyring.Text.Utf8

namespace Keyring

/-- Where passphrases come from. -/
inductive Passphrases where
  /-- The same one every time. -/
  | fixed (text : String)
  /-- The next line of some input. -/
  | lines (input : Bytes)
  deriving DecidableEq

namespace Passphrases

def lineFeed : UInt8 := 0x0a

def carriageReturn : UInt8 := 0x0d

/-- The first line with the line feed that ends it, and the input after it. -/
def splitLine (input : Bytes) : Bytes × Bytes :=
  let (text, rest) := input.span (· != lineFeed)
  match rest with
  | [] => (text, [])
  | feed :: rest => (text ++ [feed], rest)

/-- A line without the line feeds and carriage returns at its end. -/
def stripLine (line : Bytes) : Bytes :=
  (line.reverse.dropWhile fun byte => byte == lineFeed || byte == carriageReturn).reverse

/-- The passphrase that a line spells. -/
def ofLine (line : Bytes) : Except CommandError String :=
  if line.isEmpty then .error .noPassphrase
  else
    match textOf? (stripLine line) with
    | some text => .ok text
    | none => .error (.io .notText)

/-- The next passphrase, and what is left to read. A line that is not text is used up as well. -/
def next : Passphrases → Except CommandError String × Passphrases
  | fixed text => (.ok text, fixed text)
  | lines input =>
    let (line, rest) := splitLine input
    (ofLine line, lines rest)

/-- Whether there is someone to ask a second time. -/
def isInteractive : Passphrases → Bool
  | fixed _ => false
  | lines _ => true

end Passphrases

/-- The kinds of places that passphrases can come from. -/
inductive PassphraseKind where
  | environment
  | terminal
  | lines
  deriving DecidableEq, Repr

namespace PassphraseKind

/-- The environment goes before a terminal, and a terminal before lines. -/
def select (inEnvironment onTerminal : Bool) : PassphraseKind :=
  if inEnvironment then environment else if onTerminal then terminal else lines

/-- Whether there is someone to ask a second time. -/
def isInteractive : PassphraseKind → Bool
  | environment => false
  | terminal | lines => true

def name : PassphraseKind → String
  | environment => "Env"
  | terminal => "Terminal"
  | lines => "Lines"

end PassphraseKind

end Keyring
