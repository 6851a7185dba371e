import CampusBoard.Toml.Scalar
import CampusBoard.Toml.Table
import CampusBoard.Toml.QuotedText

/-!
# Reading TOML documents

A document is a sequence of lines, each empty, a header or a pair of a key and a value, where a
value may itself run over several lines. It is read into a table.

## Main definitions

* `CampusBoard.Toml.Reader.value`: reads a value.
* `CampusBoard.Toml.Reader.line`: reads a line.
* `CampusBoard.Toml.parse?`: the entries of the table that a document stands for.

## Design

The readers take the remaining characters and give back what they read with what follows. Those
that call themselves or each other do so on a supply of steps, of which `parse?` gives more than a
document of that length can use up.
-/

set_option autoImplicit false

namespace CampusBoard.Toml.Reader

/-! ## Between the values -/

/-- The characters after the spaces and tabs at the front. -/
def skipSpace (cs : List Char) : List Char :=
  cs.dropWhile fun c => c == ' ' || c == '\t'

/-- What follows the spaces, line breaks and comments at the front. `comment` says that a comment
was begun. -/
def skipGap (comment : Bool) : List Char → Option (List Char)
  | [] => some []
  | '\n' :: rest => skipGap false rest
  | '\r' :: '\n' :: rest => skipGap false rest
  | c :: rest =>
    if comment then (if QuotedText.isForbidden c then none else skipGap true rest)
    else if c == ' ' || c == '\t' then skipGap false rest
    else if c == '#' then skipGap true rest
    else some (c :: rest)

/-- What follows the end of the line, before which only blanks and a comment may stand. `comment`
says that a comment was begun. -/
def endOfLine (comment : Bool) : List Char → Option (List Char)
  | [] => some []
  | '\n' :: rest => some rest
  | '\r' :: '\n' :: rest => some rest
  | c :: rest =>
    if comment then (if QuotedText.isForbidden c then none else endOfLine true rest)
    else if c == ' ' || c == '\t' then endOfLine false rest
    else if c == '#' then endOfLine true rest
    else none

/-! ## Keys -/

/-- Whether `c` may stand in a key without quotes. -/
def isBareChar (c : Char) : Bool :=
  c.isAlphanum || c == '_' || c == '-'

/-- One part of a key, with what follows. -/
def keyPart : List Char → Option (String × List Char)
  | '"' :: rest => (QuotedText.basic rest).map fun (name, after) => (String.ofList name, after)
  | '\x27' :: rest => (QuotedText.literal rest).map fun (name, after) => (String.ofList name, after)
  | cs =>
    let name := cs.takeWhile isBareChar
    if name.isEmpty then none else some (String.ofList name, cs.dropWhile isBareChar)

/-- The parts of a key with points between them, at least one, with what follows. -/
def keyParts (fuel : Nat) (cs : List Char) : Option (List String × List Char) :=
  match fuel with
  | 0 => none
  | fuel + 1 => do
    let (name, cs) ← keyPart (skipSpace cs)
    match skipSpace cs with
    | '.' :: rest =>
      let (names, after) ← keyParts fuel rest
      return (name :: names, after)
    | rest => return ([name], rest)

/-- Lists and inline tables may be nested up to this depth, and keys may have this many parts. -/
def depthLimit : Nat := 80

/-- A key, with what follows. -/
def key (cs : List Char) : Option (List String × List Char) := do
  let (names, after) ← keyParts (cs.length + 1) cs
  if names.length ≤ depthLimit then some (names, after) else none

/-! ## Values -/

mutual

/-- A value with `depth` levels of nesting left, with what follows. -/
def value (fuel depth : Nat) (cs : List Char) : Option (Value × List Char) :=
  match fuel with
  | 0 => none
  | fuel + 1 =>
    match cs with
    | [] => none
    | '[' :: rest => if depth = 0 then none else items fuel (depth - 1) [] rest
    | '\x7b' :: rest => if depth = 0 then none else pairs fuel (depth - 1) [] rest
    | c :: rest =>
      if c == '"' || c == '\x27' then
        (QuotedText.any? (c :: rest)).map fun (body, after) =>
          (.plain (.text (String.ofList body)), after)
      else
        let (word, after) := Scalar.word (c :: rest)
        (Scalar.read? word).map fun value => (value, after)
termination_by structural fuel

/-- The items of a list from behind its opening bracket or a comma, after those in `before`. -/
def items (fuel depth : Nat) (before : List Value) (cs : List Char) :
    Option (Value × List Char) :=
  match fuel with
  | 0 => none
  | fuel + 1 => do
    match ← skipGap false cs with
    | ']' :: rest => return (.list before, rest)
    | cs =>
      let (item, cs) ← value fuel depth cs
      match ← skipGap false cs with
      | ',' :: rest => items fuel depth (before ++ [item]) rest
      | ']' :: rest => return (.list (before ++ [item]), rest)
      | _ => none
termination_by structural fuel

/-- The pairs of an inline table from behind its opening brace or a comma, after those in
`before`. Line breaks and comments may stand on either side of an equals sign. -/
def pairs (fuel depth : Nat) (before : List (List String × Value)) (cs : List Char) :
    Option (Value × List Char) :=
  match fuel with
  | 0 => none
  | fuel + 1 => do
    match ← skipGap false cs with
    | '\x7d' :: rest =>
      let table ← inlineTable? before
      return (table, rest)
    | cs =>
      let (name, cs) ← key cs
      match ← skipGap false cs with
      | '=' :: rest =>
        let (item, cs) ← value fuel depth (← skipGap false rest)
        match ← skipGap false cs with
        | ',' :: rest => pairs fuel depth (before ++ [(name, item)]) rest
        | '\x7d' :: rest =>
          let table ← inlineTable? (before ++ [(name, item)])
          return (table, rest)
        | _ => none
      | _ => none
termination_by structural fuel

end

/-! ## Lines -/

/-- A line that says something. -/
inductive Line
  /-- A value under a key. -/
  | pair (key : List String) (value : Value)
  /-- The header of a table. -/
  | header (path : List String)
  /-- The header of the next table of a list. -/
  | itemHeader (path : List String)

/-- The line at the front, which is not empty, with what follows it. -/
def line (cs : List Char) : Option (Line × List Char) :=
  match cs with
  | '[' :: '[' :: rest => do
    let (path, cs) ← key rest
    match cs with
    | ']' :: ']' :: rest =>
      let after ← endOfLine false rest
      return (.itemHeader path, after)
    | _ => none
  | '[' :: rest => do
    let (path, cs) ← key rest
    match cs with
    | ']' :: rest =>
      let after ← endOfLine false rest
      return (.header path, after)
    | _ => none
  | cs => do
    let (name, rest) ← key cs
    match rest with
    | '=' :: rest =>
      let start := skipSpace rest
      let (item, rest) ← value (2 * start.length + 2) depthLimit start
      let after ← endOfLine false rest
      return (.pair name item, after)
    | _ => none

/-- What a document has filled so far. -/
structure State where
  /-- The path of the header that was opened last. -/
  path : List String
  /-- The entries of the document's table. -/
  entries : Entries

/-- The state after a line. -/
def State.add? (s : State) : Line → Option State
  | .pair name item => (insertUnder? name item s.path s.entries).map fun e => ⟨s.path, e⟩
  | .header path => (openTable? path s.entries).map fun e => ⟨path, e⟩
  | .itemHeader path => (openItem? path s.entries).map fun e => ⟨path, e⟩

/-- The state after all remaining lines. -/
def lines (fuel : Nat) (s : State) (cs : List Char) : Option State :=
  match fuel with
  | 0 => none
  | fuel + 1 => do
    match ← skipGap false cs with
    | [] => return s
    | cs =>
      let (read, after) ← line cs
      lines fuel (← s.add? read) after

/-- The characters after a byte order mark, if there is one. -/
def withoutMark : List Char → List Char
  | c :: rest => if c.toNat = 0xFEFF then rest else c :: rest
  | [] => []

end CampusBoard.Toml.Reader

namespace CampusBoard.Toml

/-- The entries of the table that a document stands for. -/
def parse? (document : String) : Option (List (String × Value)) :=
  let cs := Reader.withoutMark document.toList
  (Reader.lines (cs.length + 1) ⟨[], []⟩ cs).map fun s => finished s.entries

end CampusBoard.Toml
