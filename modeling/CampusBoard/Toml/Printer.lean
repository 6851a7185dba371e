import CampusBoard.Text.Component
import CampusBoard.Toml.QuotedText

/-!
# Writing texts into a TOML document

A text is written in the plainest of its four forms that can hold it.

## Main definitions

* `CampusBoard.Toml.Form`: the four forms of a text.
* `CampusBoard.Toml.formOf`: the form in which a text is written.
* `CampusBoard.Toml.writeText`: the written form of a text.
-/

set_option autoImplicit false

namespace CampusBoard.Toml

/-- The forms of a text. -/
inductive Form
  /-- Between double quotes. -/
  | basic
  /-- Between single quotes. -/
  | literal
  /-- Between three double quotes on either side. -/
  | multiBasic
  /-- Between three single quotes on either side. -/
  | multiLiteral
  deriving DecidableEq, Repr

/-- The length of the longest run of `c`, where `run` times `c` stood before. -/
def longestRunFrom (c : Char) (run : Nat) : List Char → Nat
  | [] => run
  | d :: rest =>
    if d = c then longestRunFrom c (run + 1) rest else max run (longestRunFrom c 0 rest)

/-- The length of the longest run of `c`. -/
def longestRun (c : Char) (cs : List Char) : Nat :=
  longestRunFrom c 0 cs

/-- Whether `c` can only be written by its code: a control character other than the tab and the
line break. -/
def isCode (c : Char) : Bool :=
  QuotedText.isForbidden c && c != '\n'

/-- The form in which a text is written. -/
def formOf (cs : List Char) : Form :=
  let codes := cs.any isCode
  let backslash := cs.contains '\\'
  let breaks := cs.contains '\n'
  let double := longestRun '"' cs
  let single := longestRun '\x27' cs
  if !codes && !backslash && double = 0 && !breaks then .basic
  else if !codes && single = 0 && !breaks then .literal
  else if !codes && !backslash && double ≤ 2 then .multiBasic
  else if !codes && single ≤ 2 then .multiLiteral
  else if breaks then .multiBasic
  else .basic

/-- The escape of a character by its code, in upper-case hexadecimal. -/
def codeEscape (c : Char) : List Char :=
  ['\\', 'u', '0', '0', CampusBoard.Text.upperHexDigit (c.toNat / 16),
    CampusBoard.Text.upperHexDigit (c.toNat % 16)]

/-- A character between double quotes, other than the double quote and the line break. -/
def writeChar (c : Char) : List Char :=
  if c = '\x08' then ['\\', 'b']
  else if c = '\t' then ['\\', 't']
  else if c = '\x0c' then ['\\', 'f']
  else if c = '\r' then ['\\', 'r']
  else if c = '\\' then ['\\', '\\']
  else if isCode c then codeEscape c
  else [c]

/-- A character between double quotes on one line. -/
def writeBasicChar (c : Char) : List Char :=
  if c = '"' then ['\\', '"']
  else if c = '\n' then ['\\', 'n']
  else writeChar c

/-- The characters between three double quotes, where `run` double quotes stood before: every third
of a run is escaped. -/
def writeMultiBasic (run : Nat) : List Char → List Char
  | [] => []
  | c :: rest =>
    if c = '"' then
      if run = 2 then '\\' :: '"' :: writeMultiBasic 0 rest
      else '"' :: writeMultiBasic (run + 1) rest
    else if c = '\n' then '\n' :: writeMultiBasic 0 rest
    else writeChar c ++ writeMultiBasic 0 rest

/-- The line break behind three opening quotes, for a text that has one itself. -/
def firstBreak (cs : List Char) : List Char :=
  if cs.contains '\n' then ['\n'] else []

/-- The written form of the text with the characters `cs`. -/
def writeText (cs : List Char) : List Char :=
  match formOf cs with
  | .basic => '"' :: cs.flatMap writeBasicChar ++ ['"']
  | .literal => '\x27' :: cs ++ ['\x27']
  | .multiBasic => ['"', '"', '"'] ++ firstBreak cs ++ writeMultiBasic 0 cs ++ ['"', '"', '"']
  | .multiLiteral =>
    ['\x27', '\x27', '\x27'] ++ firstBreak cs ++ cs ++ ['\x27', '\x27', '\x27']

/-- The written form of a number. -/
def writeNat (n : Nat) : List Char :=
  Nat.toDigits 10 n

end CampusBoard.Toml
