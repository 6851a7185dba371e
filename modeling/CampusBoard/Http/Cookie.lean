import CampusBoard.Text.Blank
import CampusBoard.Text.Numeral

/-!
# Cookies

A reply can set cookies, which are sent along with later requests to addresses below the path for
which they are. All addresses are those of one host.

## Main definitions

* `CampusBoard.Http.Cookie`: a name and a value for a path.
* `CampusBoard.Http.CookieChange`: what a reply says about a cookie.
* `CampusBoard.Http.CookieJar`: the cookies that are kept.
* `CampusBoard.Http.CookieJar.learn`, `CampusBoard.Http.CookieJar.header?`: the operations.
-/

set_option autoImplicit false

namespace CampusBoard.Http

/-! ## Addresses -/

/-- The path of an address without scheme and host: from the first slash of the rest to a question
mark or a hash. -/
def pathChars : List Char → List Char
  | ':' :: '/' :: '/' :: rest =>
    let path := (rest.dropWhile fun c => c != '/' && c != '?' && c != '#').takeWhile
      fun c => c != '?' && c != '#'
    if path.isEmpty then ['/'] else path
  | _ :: rest => pathChars rest
  | [] => ['/']

/-- The path of an address. -/
def pathOf (url : String) : String :=
  String.ofList (pathChars url.toList)

/-- The path for which a cookie is when its reply does not say: the one of the request without its
last part. -/
def defaultPath (path : String) : String :=
  let parent := ((path.toList.reverse.dropWhile (· != '/')).drop 1).reverse
  if parent.isEmpty then "/" else String.ofList parent

/-- Whether `path` is `above` or lies below it. -/
def isAtOrBelow (above path : String) : Bool :=
  above.toList.isPrefixOf path.toList &&
    (above.toList.getLast? == some '/' ||
      match path.toList.drop above.length with
      | [] => true
      | c :: _ => c == '/')

/-! ## Reading what a reply says -/

/-- The pieces between the separators. -/
def pieces (separator : Char) : List Char → List (List Char)
  | [] => [[]]
  | c :: rest =>
    if c = separator then [] :: pieces separator rest
    else match pieces separator rest with
      | first :: others => (c :: first) :: others
      | [] => [[c]]

/-- The two sides of the first equals sign, trimmed. -/
def sides? (cs : List Char) : Option (List Char × List Char) :=
  match cs.span (· != '=') with
  | (before, _ :: after) => some (Text.trimmed before, Text.trimmed after)
  | (_, []) => none

/-- A name and a value for a path. -/
structure Cookie where
  /-- The name. -/
  name : String
  /-- The value. -/
  value : String
  /-- The path at or below which it is sent along. -/
  path : String
  deriving DecidableEq, Repr

/-- What a reply says about a cookie. -/
inductive CookieChange
  /-- It is to be kept. -/
  | keep (cookie : Cookie)
  /-- It is over. -/
  | remove (name path : String)
  deriving DecidableEq, Repr

/-- The last value of an attribute, whose name may be written in any case. -/
def attribute? (name : String) (attributes : List (List Char)) : Option (List Char) :=
  ((attributes.filterMap sides?).filter fun a =>
    (String.ofList a.1).toLower = name).getLast?.map Prod.snd

/-- Whether an age in seconds is over at once. -/
def isOver (age : List Char) : Bool :=
  match age with
  | '-' :: digits => digits.all Char.isDigit
  | digits => !digits.isEmpty && digits.all (· == '0')

/-- What a header of the reply to a request for `path` says. -/
def CookieChange.parse? (path header : String) : Option CookieChange := do
  let first :: attributes := pieces ';' header.toList | none
  let (name, value) ← sides? first
  if name.isEmpty then none
  else
    let scope := match attribute? "path" attributes with
      | some ('/' :: rest) => String.ofList ('/' :: rest)
      | _ => defaultPath path
    if (attribute? "max-age" attributes).any isOver then
      return .remove (String.ofList name) scope
    else return .keep ⟨String.ofList name, String.ofList value, scope⟩

/-! ## Jars -/

/-- The cookies that are kept. -/
structure CookieJar where
  /-- The cookies, the oldest first. -/
  cookies : List Cookie
  deriving DecidableEq, Repr

namespace CookieJar

/-- A jar without cookies. -/
def empty : CookieJar :=
  ⟨[]⟩

/-- The jar without the cookie of that name and path. -/
def remove (name path : String) (jar : CookieJar) : CookieJar :=
  ⟨jar.cookies.filter fun c => !(c.name = name && c.path = path)⟩

/-- Changes one cookie; two cookies differ in name or path. -/
def change (jar : CookieJar) : CookieChange → CookieJar
  | .keep cookie => ⟨(jar.remove cookie.name cookie.path).cookies ++ [cookie]⟩
  | .remove name path => jar.remove name path

/-- Takes what the reply to a request for `path` says. -/
def learn (path : String) (headers : List String) (jar : CookieJar) : CookieJar :=
  (headers.filterMap (CookieChange.parse? path)).foldl change jar

/-- The cookies that are sent along with a request for `path`. -/
def sentTo (path : String) (jar : CookieJar) : List Cookie :=
  jar.cookies.filter fun c => isAtOrBelow c.path path

/-- The header that sends them along, if there are any. -/
def header? (path : String) (jar : CookieJar) : Option String :=
  match jar.sentTo path with
  | [] => none
  | cookies => some ("; ".intercalate (cookies.map fun c => c.name ++ "=" ++ c.value))

end CookieJar

end CampusBoard.Http
