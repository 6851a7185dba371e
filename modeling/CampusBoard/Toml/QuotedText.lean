import CampusBoard.Json.Reader

/-!
# Texts in a TOML document

A text is written between double quotes, with escapes, or between single quotes, as it stands; in
both cases between one quote on either side, or between three and then over several lines.

## Main definitions

* `CampusBoard.Toml.QuotedText.basic`, `CampusBoard.Toml.QuotedText.literal`: the bodies of texts
  on one line.
* `CampusBoard.Toml.QuotedText.multiBasic`, `CampusBoard.Toml.QuotedText.multiLiteral`: the bodies
  of texts over several lines.

## Design

Each reader starts behind the opening quotes and gives back the characters of the text with what
follows the closing quotes. Behind three opening quotes the text ends at the last three of a run
of three to five quotes, the others belong to it. A line break is a line feed with or without a
carriage return before it, and belongs to the text as it stands.
-/

set_option autoImplicit false

namespace CampusBoard.Toml.QuotedText

/-- Whether `c` may not stand in a text or a comment: a control character other than the tab. -/
def isForbidden (c : Char) : Bool :=
  (c.toNat < 0x20 && c != '\t') || c.toNat == 0x7F

/-- The character with code point `n`, if there is one. -/
def scalar? (n : Nat) : Option Char :=
  if n < 0xD800 ∨ (0xE000 ≤ n ∧ n < 0x110000) then some (Char.ofNat n) else none

/-- The character of an escape with a single letter. -/
def shortEscape? : Char → Option Char
  | 'b' => some '\x08'
  | 't' => some '\t'
  | 'n' => some '\n'
  | 'f' => some '\x0c'
  | 'r' => some '\r'
  | 'e' => some '\x1b'
  | '"' => some '"'
  | '\\' => some '\\'
  | _ => none

/-- The character of an escape with two hexadecimal digits. -/
def byteEscape? (a b : Char) : Option Char := do
  let a ← Json.Reader.hexValue? a
  let b ← Json.Reader.hexValue? b
  scalar? (a * 16 + b)

/-- The character of an escape with four hexadecimal digits. -/
def quadEscape? (a b c d : Char) : Option Char := do
  let n ← Json.Reader.hexQuad? a b c d
  scalar? n

/-- The character of an escape with eight hexadecimal digits. -/
def octEscape? (a b c d e f g h : Char) : Option Char := do
  let high ← Json.Reader.hexQuad? a b c d
  let low ← Json.Reader.hexQuad? e f g h
  scalar? (high * 0x10000 + low)

/-- Puts a character, if there is one, in front of a text that was read. -/
def prepend (c : Option Char) (read : Option (List Char × List Char)) :
    Option (List Char × List Char) :=
  match c, read with
  | some c, some (body, rest) => some (c :: body, rest)
  | _, _ => none

/-- The body of a text between double quotes on one line. -/
def basic : List Char → Option (List Char × List Char)
  | [] => none
  | '"' :: rest => some ([], rest)
  | '\\' :: 'x' :: a :: b :: rest => prepend (byteEscape? a b) (basic rest)
  | '\\' :: 'u' :: a :: b :: c :: d :: rest => prepend (quadEscape? a b c d) (basic rest)
  | '\\' :: 'U' :: a :: b :: c :: d :: e :: f :: g :: h :: rest =>
    prepend (octEscape? a b c d e f g h) (basic rest)
  | '\\' :: letter :: rest => prepend (shortEscape? letter) (basic rest)
  | c :: rest => if c == '\\' || isForbidden c then none else prepend (some c) (basic rest)

/-- The body of a text between single quotes on one line. -/
def literal : List Char → Option (List Char × List Char)
  | [] => none
  | c :: rest =>
    if c == '\x27' then some ([], rest)
    else if isForbidden c then none
    else prepend (some c) (literal rest)

/-- The characters after a line break at the front, if there is one. -/
def afterBreak? : List Char → Option (List Char)
  | '\n' :: rest => some rest
  | '\r' :: '\n' :: rest => some rest
  | _ => none

/-- Whether only spaces and tabs stand before the end of the line. -/
def restOfLineIsBlank (cs : List Char) : Bool :=
  (afterBreak? (cs.dropWhile fun c => c == ' ' || c == '\t')).isSome

/-- The body of a text between three double quotes on either side. `folding` says that a backslash
at the end of a line was read, after which blanks and line breaks are passed over. -/
def multiBasic (folding : Bool) : List Char → Option (List Char × List Char)
  | [] => none
  | '"' :: '"' :: '"' :: '"' :: '"' :: rest => some (['"', '"'], rest)
  | '"' :: '"' :: '"' :: '"' :: rest => some (['"'], rest)
  | '"' :: '"' :: '"' :: rest => some ([], rest)
  | '\r' :: '\n' :: rest =>
    if folding then multiBasic true rest
    else prepend (some '\r') (prepend (some '\n') (multiBasic false rest))
  | '\n' :: rest =>
    if folding then multiBasic true rest else prepend (some '\n') (multiBasic false rest)
  | '\\' :: 'x' :: a :: b :: rest => prepend (byteEscape? a b) (multiBasic false rest)
  | '\\' :: 'u' :: a :: b :: c :: d :: rest =>
    prepend (quadEscape? a b c d) (multiBasic false rest)
  | '\\' :: 'U' :: a :: b :: c :: d :: e :: f :: g :: h :: rest =>
    prepend (octEscape? a b c d e f g h) (multiBasic false rest)
  | '\\' :: letter :: rest =>
    if restOfLineIsBlank (letter :: rest) then multiBasic true (letter :: rest)
    else prepend (shortEscape? letter) (multiBasic false rest)
  | c :: rest =>
    if c == '\\' || isForbidden c then none
    else if folding && (c == ' ' || c == '\t') then multiBasic true rest
    else prepend (some c) (multiBasic false rest)

/-- The body of a text between three single quotes on either side. -/
def multiLiteral : List Char → Option (List Char × List Char)
  | [] => none
  | '\x27' :: '\x27' :: '\x27' :: '\x27' :: '\x27' :: rest => some (['\x27', '\x27'], rest)
  | '\x27' :: '\x27' :: '\x27' :: '\x27' :: rest => some (['\x27'], rest)
  | '\x27' :: '\x27' :: '\x27' :: rest => some ([], rest)
  | '\r' :: '\n' :: rest => prepend (some '\r') (prepend (some '\n') (multiLiteral rest))
  | '\n' :: rest => prepend (some '\n') (multiLiteral rest)
  | c :: rest => if isForbidden c then none else prepend (some c) (multiLiteral rest)

/-- The characters without a line break at the front, which does not belong to a text over several
lines. -/
def withoutFirstBreak (cs : List Char) : List Char :=
  (afterBreak? cs).getD cs

/-- A text in any of its four forms, with what follows it. -/
def any? : List Char → Option (List Char × List Char)
  | '"' :: '"' :: '"' :: rest => multiBasic false (withoutFirstBreak rest)
  | '\x27' :: '\x27' :: '\x27' :: rest => multiLiteral (withoutFirstBreak rest)
  | '"' :: rest => basic rest
  | '\x27' :: rest => literal rest
  | _ => none

end CampusBoard.Toml.QuotedText
