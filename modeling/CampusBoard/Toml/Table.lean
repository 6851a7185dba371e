import CampusBoard.Toml.Value

/-!
# Tables of a TOML document

A document fills one table, whose entries may be tables again. Which of them may still grow hangs
on how they came about.

## Main definitions

* `CampusBoard.Toml.Node`: an entry of a table that may still grow.
* `CampusBoard.Toml.insertPair?`: sets a value under a dotted key.
* `CampusBoard.Toml.openTable?`, `CampusBoard.Toml.openItem?`: what a header does.
* `CampusBoard.Toml.insertUnder?`: sets a value under a header.
* `CampusBoard.Toml.finished`: the entries of the finished table.
-/

set_option autoImplicit false

namespace CampusBoard.Toml

/-- How a table came about. -/
inductive Origin
  /-- It holds a table that has a header. -/
  | implied
  /-- A dotted key runs through it. -/
  | dotted
  /-- It has a header of its own. -/
  | headed
  deriving DecidableEq, Repr

/-- An entry of a table. -/
inductive Node
  /-- A value that cannot grow. -/
  | leaf (value : Value)
  /-- A table. -/
  | table (origin : Origin) (entries : List (String × Node))
  /-- A list of tables, of which only the last can grow. -/
  | tables (earlier : List Value) (last : List (String × Node))

/-- The entries of a table in the order in which they came about. -/
abbrev Entries := List (String × Node)

/-- Changes the entry called `name`, which may be missing so far, or fails where the change
fails. -/
def Entries.alter? (name : String) (change : Option Node → Option Node) : Entries → Option Entries
  | [] => (change none).map fun node => [(name, node)]
  | (key, node) :: rest =>
    if key = name then (change (some node)).map fun node => (key, node) :: rest
    else (alter? name change rest).map ((key, node) :: ·)

mutual

/-- The value of an entry. -/
def Node.toValue : Node → Value
  | .leaf value => value
  | .table _ entries => .table (finished entries)
  | .tables earlier last => .list (earlier ++ [.table (finished last)])
termination_by structural node => node

/-- The entries of a finished table. -/
def finished : List (String × Node) → List (String × Value)
  | [] => []
  | entry :: rest => finishedEntry entry :: finished rest
termination_by structural entries => entries

/-- A finished entry. -/
def finishedEntry : String × Node → String × Value
  | (name, node) => (name, node.toValue)
termination_by structural entry => entry

end

/-- Sets a value under a dotted key. The last part must be new. The parts before it are tables,
which come about where they are missing; none of them has a header of its own, and the one that
takes the value does not come from a header at all. -/
def insertPair? (value : Value) : List String → Entries → Option Entries
  | [], _ => none
  | [name], entries => entries.alter? name fun
    | none => some (.leaf value)
    | some _ => none
  | name :: next :: rest, entries => entries.alter? name fun
    | none => (insertPair? value (next :: rest) []).map (.table .dotted)
    | some (.table .dotted inner) => (insertPair? value (next :: rest) inner).map (.table .dotted)
    | some (.table .implied inner) =>
      if rest.isEmpty then none
      else (insertPair? value (next :: rest) inner).map (.table .implied)
    | some (.tables earlier last) =>
      if rest.isEmpty then none
      else (insertPair? value (next :: rest) last).map (.tables earlier)
    | some _ => none

/-- Does `change` to the table that the parts of a header but its last one lead to, making the
tables on the way where they are missing. -/
def underPath? (change : String → Entries → Option Entries) : List String → Entries → Option Entries
  | [], _ => none
  | [name], entries => change name entries
  | name :: next :: rest, entries => entries.alter? name fun
    | none => (underPath? change (next :: rest) []).map (.table .implied)
    | some (.table origin inner) => (underPath? change (next :: rest) inner).map (.table origin)
    | some (.tables earlier last) => (underPath? change (next :: rest) last).map (.tables earlier)
    | some (.leaf _) => none

/-- Opens the table of a header, which has none yet. -/
def openTable? : List String → Entries → Option Entries :=
  underPath? fun name entries => entries.alter? name fun
    | none => some (.table .headed [])
    | some (.table .implied inner) => some (.table .headed inner)
    | some _ => none

/-- Opens a new table at the end of the list of tables of a header. -/
def openItem? : List String → Entries → Option Entries :=
  underPath? fun name entries => entries.alter? name fun
    | none => some (.tables [] [])
    | some (.tables earlier last) => some (.tables (earlier ++ [.table (finished last)]) [])
    | some _ => none

/-- Sets a value under a dotted key in the table of the header that was opened last. -/
def insertUnder? (key : List String) (value : Value) : List String → Entries → Option Entries
  | [], entries => insertPair? value key entries
  | name :: rest, entries => entries.alter? name fun
    | some (.table origin inner) => (insertUnder? key value rest inner).map (.table origin)
    | some (.tables earlier last) => (insertUnder? key value rest last).map (.tables earlier)
    | _ => none

/-- The inline table with the given pairs. -/
def inlineTable? (pairs : List (List String × Value)) : Option Value :=
  (pairs.foldlM (fun entries pair => insertPair? pair.2 pair.1 entries) ([] : Entries)).map
    fun entries => .table (finished entries)

end CampusBoard.Toml
