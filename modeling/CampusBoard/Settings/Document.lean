import CampusBoard.Settings.Json
import CampusBoard.Toml.Printer
import CampusBoard.Toml.Reader

/-!
# The settings document

Settings are kept in a TOML document with a table per section. What the document leaves out keeps
its default, and what it has beyond the settings is ignored.

## Main definitions

* `CampusBoard.Settings.ofDocument?`: the settings that a document stands for.
* `CampusBoard.Settings.document`: the document for settings.
* `CampusBoard.Settings.load`: the settings kept at a place.
* `CampusBoard.Settings.save`: the document kept at a place.
-/

set_option autoImplicit false

namespace CampusBoard.Settings

/-- The number of fields of a section. -/
def fieldCount? : String → Option Nat
  | "search" => some SearchSettings.shape.fields.length
  | "account" => some AccountSettings.shape.fields.length
  | "reviews" => some ReviewSettings.shape.fields.length
  | "limits" => some LimitSettings.shape.fields.length
  | "endpoints" => some EndpointSettings.shape.fields.length
  | _ => none

/-- What is looked at of an entry of the document: of a section that is given as a list, the items
beyond its last field are passed over. -/
def looked (entry : String × Toml.Value) : String × Toml.Value :=
  match fieldCount? entry.1, entry.2 with
  | some count, .list items => (entry.1, .list (items.take count))
  | _, value => (entry.1, value)

/-- The settings that a document stands for. -/
def ofDocument? (document : String) : Option Settings := do
  let entries ← Toml.parse? document
  let table ← (Toml.Value.table (entries.map looked)).toJson?
  (read table).toOption

/-! ## Writing -/

/-- A value of a section as it is written. -/
inductive Entry
  /-- A number. -/
  | number (n : UInt64)
  /-- A text. -/
  | text (s : String)

/-- The characters of a value. -/
def Entry.chars : Entry → List Char
  | .number n => Toml.writeNat n.toNat
  | .text s => Toml.writeText s.toList

/-- A section: its name and its values under their keys. -/
abbrev Section := String × List (String × Entry)

/-- The sections of settings; a missing key for the index is left out. -/
def sections (s : Settings) : List Section :=
  [("search", [("page_size", .number s.search.pageSize.val),
      ("highlight_pre_tag", .text s.search.preTag),
      ("highlight_post_tag", .text s.search.postTag)]),
    ("account", [("max_chars", .number s.account.maxChars),
      ("min_password_length", .number s.account.minPasswordLength),
      ("code_length", .number s.account.codeLength),
      ("email_domain", .text s.account.emailDomain),
      ("error_max_chars", .number s.account.errorMaxChars)]),
    ("reviews", [("min_chars", .number s.reviews.minChars),
      ("max_chars", .number s.reviews.maxChars),
      ("max_thumbs", .number s.reviews.maxThumbs),
      ("thumbs_flush_ms", .number s.reviews.thumbsFlushMs)]),
    ("limits", [("auth_cooldown_ms", .number s.limits.authCooldownMs),
      ("post_cooldown_ms", .number s.limits.postCooldownMs)]),
    ("endpoints", [("meili_url", .text s.endpoints.indexUrl)] ++
      (match s.endpoints.indexKey with
        | some key => [("meili_key", .text key)]
        | none => []) ++
      [("swap_backend", .text s.endpoints.swapBackend),
        ("housing_backend", .text s.endpoints.housingBackend),
        ("home_backend", .text s.endpoints.homeBackend)])]

/-- The line of a value. -/
def pairLine (pair : String × Entry) : List Char :=
  pair.1.toList ++ [' ', '=', ' '] ++ pair.2.chars ++ ['\n']

/-- The lines of a section. -/
def sectionLines (s : Section) : List Char :=
  ['['] ++ s.1.toList ++ [']', '\n'] ++ s.2.flatMap pairLine

/-- The document for settings, with an empty line between the sections. -/
def document (s : Settings) : String :=
  String.ofList (['\n'].intercalate (s.sections.map sectionLines))

/-! ## Files -/

/-- What stands at the place of a settings document. -/
inductive Stored
  /-- Nothing. -/
  | missing
  /-- A directory. -/
  | directory
  /-- A file with these bytes. -/
  | file (bytes : ByteArray)

/-- Why settings cannot be loaded or saved. -/
inductive FileError
  /-- The directory is missing. -/
  | notFound
  /-- A directory stands in the place of the file. -/
  | isDirectory
  /-- The bytes are no text. -/
  | invalidData
  /-- The text is no document of settings. -/
  | malformed
  deriving DecidableEq, Repr

/-- The settings kept at a place; where nothing is kept the defaults hold. -/
def load : Stored → Except FileError Settings
  | .missing => .ok {}
  | .directory => .error .isDirectory
  | .file bytes =>
    match String.fromUTF8? bytes with
    | none => .error .invalidData
    | some document =>
      match ofDocument? document with
      | some settings => .ok settings
      | none => .error .malformed

/-- The document that is written, if the directory for it is there. -/
def save (directoryExists : Bool) (s : Settings) : Except FileError String :=
  if directoryExists then .ok s.document else .error .notFound

end CampusBoard.Settings
