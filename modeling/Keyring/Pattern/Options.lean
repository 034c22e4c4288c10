import Keyring.Text.Blank

namespace Keyring.Pattern

/-- How the text of a pattern is taken. -/
structure Options where
  /-- Whether blanks are left out, and what stands between a number sign and the end of its line. -/
  verbose : Bool
  /-- Whether a letter stands for both of its cases. -/
  caseless : Bool
  /-- Whether a pattern is made of characters, and not of bytes. -/
  unicode : Bool
  deriving DecidableEq, Repr

namespace Options

/-- The options that a pattern starts with. -/
def initial : Options :=
  ⟨false, false, true⟩

/-- The letters that stand for options, and the sign that what follows is turned off. -/
def letters : List Char :=
  ['i', 'm', 's', 'U', 'u', 'R', 'x', '-']

/-- The options with one of them turned on or off by its letter. Only three matter to what a
pattern may hold. -/
def set (options : Options) (letter : Char) (on : Bool) : Options :=
  match letter with
  | 'x' => { options with verbose := on }
  | 'i' => { options with caseless := on }
  | 'u' => { options with unicode := on }
  | _ => options

/-- The options after a change that is written down. No letter is written twice, and the sign does
not stand at the end. -/
def change? (options : Options) (text : List Char) : Option Options :=
  let (on, off) := text.span (· ≠ '-')
  if text.all letters.contains ∧ text.Nodup ∧ text.getLast? ≠ some '-' then
    some ((off.drop 1).foldl (fun done letter => done.set letter false)
      (on.foldl (fun done letter => done.set letter true) options))
  else none

end Options

/-- What is left of a text when blanks and comments in front are left out. -/
def skipBlanks (inComment : Bool) : List Char → List Char
  | [] => []
  | c :: rest =>
    if inComment then skipBlanks (c ≠ '\n') rest
    else if Blank.isBlank c then skipBlanks false rest
    else if c = '#' then skipBlanks true rest
    else c :: rest

/-- What is left of a text to be taken under the options. -/
def skip (options : Options) (text : List Char) : List Char :=
  if options.verbose then skipBlanks false text else text

/-- The character that counts as the next one when a hyphen has been read. Blanks and one number
sign are passed over, but not to the end of the text. -/
def peek (options : Options) (text : List Char) : Option Char :=
  if !options.verbose then text.head?
  else
    let ahead :=
      match text.dropWhile Blank.isBlank with
      | '#' :: rest => rest.dropWhile Blank.isBlank
      | rest => rest
    ahead.head?.or text.head?

end Keyring.Pattern
