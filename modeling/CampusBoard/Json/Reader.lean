import CampusBoard.Json.Basic
import CampusBoard.Text.Numeral

/-!
# Reading JSON text

The reader accepts exactly the texts of the JSON grammar whose numbers are not too large and whose
lists and objects are not nested too deeply. Members of an object keep their order and may repeat
a name.

## Main definitions

* `CampusBoard.Json.parse?`: the value of a text.

## Design

Each reader takes the remaining characters and gives back what it read with the characters after
it. Lists and objects call the reader of values again, so the three are mutually recursive on a
supply of steps; the supply that `parse?` gives is larger than any text of that length can use up.
-/

set_option autoImplicit false

namespace CampusBoard.Json.Reader

/-- Whether `c` may stand between tokens. -/
def isSpace (c : Char) : Bool :=
  c == ' ' || c == '\n' || c == '\r' || c == '\t'

/-- The characters from the next token on. -/
def skipSpace (cs : List Char) : List Char :=
  cs.dropWhile isSpace

/-! ## Texts -/

/-- The value of a hexadecimal digit of either case. -/
def hexValue? (c : Char) : Option Nat :=
  if '0' ≤ c ∧ c ≤ '9' then some (c.toNat - '0'.toNat)
  else if 'a' ≤ c ∧ c ≤ 'f' then some (c.toNat - 'a'.toNat + 10)
  else if 'A' ≤ c ∧ c ≤ 'F' then some (c.toNat - 'A'.toNat + 10)
  else none

/-- The number that four hexadecimal digits stand for. -/
def hexQuad? (a b c d : Char) : Option Nat := do
  let a ← hexValue? a
  let b ← hexValue? b
  let c ← hexValue? c
  let d ← hexValue? d
  return ((a * 16 + b) * 16 + c) * 16 + d

/-- The character of an escape with a single letter. -/
def shortEscape? : Char → Option Char
  | '"' => some '"'
  | '\\' => some '\\'
  | '/' => some '/'
  | 'b' => some '\x08'
  | 'f' => some '\x0c'
  | 'n' => some '\n'
  | 'r' => some '\r'
  | 't' => some '\t'
  | _ => none

/-- The character that a code unit and the unit after it, if one was read, stand for, with whether
the second unit was used. -/
def unitsToChar? (first : Nat) (second : Option Nat) : Option (Char × Bool) :=
  if 0xD800 ≤ first ∧ first < 0xDC00 then
    match second with
    | some low =>
      if 0xDC00 ≤ low ∧ low < 0xE000 then
        some (Char.ofNat (0x10000 + (first - 0xD800) * 0x400 + (low - 0xDC00)), true)
      else none
    | none => none
  else if 0xDC00 ≤ first ∧ first < 0xE000 then none
  else some (Char.ofNat first, false)

/-- The characters up to the closing quote of a text whose opening quote was read. -/
def textBody : List Char → Option (List Char × List Char)
  | [] => none
  | '"' :: rest => some ([], rest)
  | '\\' :: 'u' :: a :: b :: c :: d :: '\\' :: 'u' :: a' :: b' :: c' :: d' :: rest => do
    let first ← hexQuad? a b c d
    match unitsToChar? first (hexQuad? a' b' c' d') with
    | some (char, true) =>
      let (body, after) ← textBody rest
      return (char :: body, after)
    | some (char, false) =>
      let (body, after) ← textBody ('\\' :: 'u' :: a' :: b' :: c' :: d' :: rest)
      return (char :: body, after)
    | none => none
  | '\\' :: 'u' :: a :: b :: c :: d :: rest => do
    let first ← hexQuad? a b c d
    let (char, _) ← unitsToChar? first none
    let (body, after) ← textBody rest
    return (char :: body, after)
  | '\\' :: letter :: rest => do
    let char ← shortEscape? letter
    let (body, after) ← textBody rest
    return (char :: body, after)
  | char :: rest => do
    if char == '\\' || char.toNat < 0x20 then none
    let (body, after) ← textBody rest
    return (char :: body, after)

/-! ## Numbers -/

/-- A number as written. -/
structure Numeral where
  /-- Whether a minus sign stands in front. -/
  negative : Bool
  /-- The digits before the point. -/
  whole : List Char
  /-- The digits after the point, if there is one. -/
  fraction : Option (List Char)
  /-- The exponent, if there is one. -/
  exponent : Option Int

/-- The digits at the front, at least one, with what follows them. -/
def digits (cs : List Char) : Option (List Char × List Char) :=
  let front := cs.takeWhile Char.isDigit
  if front.isEmpty then none else some (front, cs.dropWhile Char.isDigit)

/-- The optional digits after a point. -/
def fractionPart : List Char → Option (Option (List Char) × List Char)
  | '.' :: rest => (digits rest).map fun (front, after) => (some front, after)
  | cs => some (none, cs)

/-- The optional exponent. -/
def exponentPart : List Char → Option (Option Int × List Char)
  | mark :: rest =>
    if mark == 'e' || mark == 'E' then
      match rest with
      | '-' :: rest => (digits rest).map fun (front, after) =>
          (some (-(Text.numeralValue front : Int)), after)
      | '+' :: rest => (digits rest).map fun (front, after) =>
          (some (Text.numeralValue front : Int), after)
      | rest => (digits rest).map fun (front, after) =>
          (some (Text.numeralValue front : Int), after)
    else some (none, mark :: rest)
  | [] => some (none, [])

/-- A number as written: no leading zero, and digits wherever a point or an exponent asks for
them. -/
def numeral (cs : List Char) : Option (Numeral × List Char) := do
  let (negative, cs) := match cs with
    | '-' :: rest => (true, rest)
    | cs => (false, cs)
  let (whole, cs) ← digits cs
  if whole.head? == some '0' && whole.length != 1 then none
  let (fraction, cs) ← fractionPart cs
  let (exponent, cs) ← exponentPart cs
  return (⟨negative, whole, fraction, exponent⟩, cs)

/-- Appends digits to a significand as long as it fits into sixty-four bits; the second part
counts the digits that were appended. -/
def extend (significand : Nat) : List Char → Nat × Nat
  | [] => (significand, 0)
  | digit :: rest =>
    let next := significand * 10 + (digit.toNat - '0'.toNat)
    if next < UInt64.size then
      let (final, count) := extend next rest
      (final, count + 1)
    else (significand, 0)

/-- The value of a number that is not kept as an integer. -/
def Numeral.toReal? (n : Numeral) : Option Json :=
  let (significand, kept) := extend 0 n.whole
  let (significand, places) := extend significand (n.fraction.getD [])
  let exponent := ((n.whole.length - kept : Nat) : Int) - places + n.exponent.getD 0
  (Binary64.ofDecimal? n.negative significand exponent).map .real

/-- The value of a number: an integer when it has neither point nor exponent and fits into 64
bits, with or without sign. A negative zero is no integer. -/
def Numeral.toJson? (n : Numeral) : Option Json :=
  if n.fraction.isNone && n.exponent.isNone then
    let value := Text.numeralValue n.whole
    if n.negative then
      if 0 < value ∧ value ≤ UInt64.size / 2 then some (.integer (-value)) else n.toReal?
    else if value < UInt64.size then some (.integer value)
    else n.toReal?
  else n.toReal?

/-! ## Values -/

/-- Lists and objects may be nested below this depth. -/
def depthLimit : Nat := 128

mutual

/-- A value with `depth` levels of nesting left. -/
def value (fuel depth : Nat) (cs : List Char) : Option (Json × List Char) :=
  match fuel with
  | 0 => none
  | fuel + 1 =>
    match skipSpace cs with
    | 'n' :: 'u' :: 'l' :: 'l' :: rest => some (.null, rest)
    | 't' :: 'r' :: 'u' :: 'e' :: rest => some (.bool true, rest)
    | 'f' :: 'a' :: 'l' :: 's' :: 'e' :: rest => some (.bool false, rest)
    | '"' :: rest => (textBody rest).map fun (body, after) => (.text (String.ofList body), after)
    | '[' :: rest =>
      if depth ≤ 1 then none
      else match skipSpace rest with
        | ']' :: rest => some (.list [], rest)
        | rest => (items fuel (depth - 1) rest).map fun (read, after) => (.list read, after)
    | '\x7b' :: rest =>
      if depth ≤ 1 then none
      else match skipSpace rest with
        | '\x7d' :: rest => some (.object [], rest)
        | rest => (members fuel (depth - 1) rest).map fun (read, after) => (.object read, after)
    | rest => do
      let (number, after) ← numeral rest
      let number ← number.toJson?
      return (number, after)
termination_by structural fuel

/-- The items of a list that has at least one, with the closing bracket. -/
def items (fuel depth : Nat) (cs : List Char) : Option (List Json × List Char) :=
  match fuel with
  | 0 => none
  | fuel + 1 => do
    let (item, cs) ← value fuel depth cs
    match skipSpace cs with
    | ',' :: rest =>
      let (others, after) ← items fuel depth rest
      return (item :: others, after)
    | ']' :: rest => return ([item], rest)
    | _ => none
termination_by structural fuel

/-- The members of an object that has at least one, with the closing brace. -/
def members (fuel depth : Nat) (cs : List Char) : Option (Members × List Char) :=
  match fuel with
  | 0 => none
  | fuel + 1 =>
    match skipSpace cs with
    | '"' :: rest => do
      let (name, cs) ← textBody rest
      match skipSpace cs with
      | ':' :: rest =>
        let (item, cs) ← value fuel depth rest
        match skipSpace cs with
        | ',' :: rest =>
          let (others, after) ← members fuel depth rest
          return ((String.ofList name, item) :: others, after)
        | '\x7d' :: rest => return ([(String.ofList name, item)], rest)
        | _ => none
      | _ => none
    | _ => none
termination_by structural fuel

end

end CampusBoard.Json.Reader

namespace CampusBoard.Json

/-- The value that a JSON text stands for. -/
def parse? (s : String) : Option Json :=
  let cs := s.toList
  match Reader.value (2 * cs.length + 2) Reader.depthLimit cs with
  | some (value, rest) => if (Reader.skipSpace rest).isEmpty then some value else none
  | none => none

end CampusBoard.Json
