import CampusBoard.Json.Reader

/-!
# Reading the wanted members of JSON objects

Where a record is read from text, only the members that are wanted are made into values. The others
are passed over: they have to follow the grammar, but their numbers may be too large, their escapes
need not stand for characters, and their lists and objects may be nested at any depth.

## Main definitions

* `CampusBoard.Json.Reader.skip`: passes over a value.
* `CampusBoard.Json.Reader.record`: a value of which, if it is an object, only the wanted members
  are read.
* `CampusBoard.Json.record?`, `CampusBoard.Json.records?`: the record that a text stands for, and
  the list of records.
-/

set_option autoImplicit false

namespace CampusBoard.Json.Reader

/-! ## Passing over values -/

/-- Passes over the rest of a text whose opening quote was read. -/
def skipText : List Char → Option (List Char)
  | [] => none
  | '"' :: rest => some rest
  | '\\' :: 'u' :: a :: b :: c :: d :: rest => do
    let _ ← hexQuad? a b c d
    skipText rest
  | '\\' :: letter :: rest => do
    let _ ← shortEscape? letter
    skipText rest
  | char :: rest => if char == '\\' || char.toNat < 0x20 then none else skipText rest

mutual

/-- Passes over a value. -/
def skip (fuel : Nat) (cs : List Char) : Option (List Char) :=
  match fuel with
  | 0 => none
  | fuel + 1 =>
    match skipSpace cs with
    | 'n' :: 'u' :: 'l' :: 'l' :: rest => some rest
    | 't' :: 'r' :: 'u' :: 'e' :: rest => some rest
    | 'f' :: 'a' :: 'l' :: 's' :: 'e' :: rest => some rest
    | '"' :: rest => skipText rest
    | '[' :: rest =>
      match skipSpace rest with
      | ']' :: rest => some rest
      | rest => skipItems fuel rest
    | '\x7b' :: rest =>
      match skipSpace rest with
      | '\x7d' :: rest => some rest
      | rest => skipMembers fuel rest
    | rest => (numeral rest).map Prod.snd
termination_by structural fuel

/-- Passes over the items of a list that has at least one, and over the closing bracket. -/
def skipItems (fuel : Nat) (cs : List Char) : Option (List Char) :=
  match fuel with
  | 0 => none
  | fuel + 1 => do
    let cs ← skip fuel cs
    match skipSpace cs with
    | ',' :: rest => skipItems fuel rest
    | ']' :: rest => return rest
    | _ => none
termination_by structural fuel

/-- Passes over the members of an object that has at least one, and over the closing brace. -/
def skipMembers (fuel : Nat) (cs : List Char) : Option (List Char) :=
  match fuel with
  | 0 => none
  | fuel + 1 =>
    match skipSpace cs with
    | '"' :: rest => do
      let cs ← skipText rest
      match skipSpace cs with
      | ':' :: rest =>
        let cs ← skip fuel rest
        match skipSpace cs with
        | ',' :: rest => skipMembers fuel rest
        | '\x7d' :: rest => return rest
        | _ => none
      | _ => none
    | _ => none
termination_by structural fuel

end

/-! ## Records -/

variable (names : List String)

/-- The member called `name`, whose value comes next: nothing is kept of one that is not wanted. -/
def wantedMember (name : String) (fuel depth : Nat) (cs : List Char) :
    Option (Members × List Char) :=
  if name ∈ names then (value fuel depth cs).map fun (item, after) => ([(name, item)], after)
  else (skip fuel cs).map fun after => ([], after)

/-- The wanted ones among the members of an object that has at least one member, with the closing
brace. -/
def wantedMembers (fuel depth : Nat) (cs : List Char) : Option (Members × List Char) :=
  match fuel with
  | 0 => none
  | fuel + 1 =>
    match skipSpace cs with
    | '"' :: rest => do
      let (name, cs) ← textBody rest
      match skipSpace cs with
      | ':' :: rest =>
        let (kept, cs) ← wantedMember names (String.ofList name) fuel depth rest
        match skipSpace cs with
        | ',' :: rest =>
          let (others, after) ← wantedMembers fuel depth rest
          return (kept ++ others, after)
        | '\x7d' :: rest => return (kept, rest)
        | _ => none
      | _ => none
    | _ => none

/-- A value of which, if it is an object, only the wanted members are read. -/
def record (fuel depth : Nat) (cs : List Char) : Option (Json × List Char) :=
  match fuel with
  | 0 => none
  | fuel + 1 =>
    match skipSpace cs with
    | '\x7b' :: rest =>
      if depth ≤ 1 then none
      else match skipSpace rest with
        | '\x7d' :: rest => some (.object [], rest)
        | rest => (wantedMembers names fuel (depth - 1) rest).map fun (kept, after) =>
            (.object kept, after)
    | _ => value (fuel + 1) depth cs

/-- The records of a list that has at least one, with the closing bracket. -/
def recordItems (fuel depth : Nat) (cs : List Char) : Option (List Json × List Char) :=
  match fuel with
  | 0 => none
  | fuel + 1 => do
    let (item, cs) ← record names fuel depth cs
    match skipSpace cs with
    | ',' :: rest =>
      let (others, after) ← recordItems fuel depth rest
      return (item :: others, after)
    | ']' :: rest => return ([item], rest)
    | _ => none

/-- A list of records. -/
def records (fuel depth : Nat) (cs : List Char) : Option (List Json × List Char) :=
  match fuel with
  | 0 => none
  | fuel + 1 =>
    match skipSpace cs with
    | '[' :: rest =>
      if depth ≤ 1 then none
      else match skipSpace rest with
        | ']' :: rest => some ([], rest)
        | rest => recordItems names fuel (depth - 1) rest
    | _ => none

/-- What a reader makes of a whole text. -/
def whole {α : Type} (read : Nat → Nat → List Char → Option (α × List Char)) (s : String) :
    Option α :=
  match read (2 * s.toList.length + 2) depthLimit s.toList with
  | some (found, rest) => if (skipSpace rest).isEmpty then some found else none
  | none => none

end CampusBoard.Json.Reader

namespace CampusBoard.Json

/-- The record with the wanted members that a text stands for. -/
def record? (names : List String) (s : String) : Option Json :=
  Reader.whole (Reader.record names) s

/-- The records with the wanted members that a text lists. -/
def records? (names : List String) (s : String) : Option (List Json) :=
  Reader.whole (Reader.records names) s

end CampusBoard.Json
