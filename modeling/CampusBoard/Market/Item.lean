import CampusBoard.Decode.Record

/-!
# Items for sale

## Main definitions

* `CampusBoard.ItemType`, `CampusBoard.Condition`, `CampusBoard.PickupLocation`,
  `CampusBoard.Emoji`: the vocabularies that describe an item.
* `CampusBoard.Item`: an item as the index holds it.
* `CampusBoard.Item.read`, `CampusBoard.Item.toJson`: its reader and its writer.
-/

set_option autoImplicit false

namespace CampusBoard

/-- What an item is. -/
inductive ItemType
  /-- Furniture. -/
  | furniture
  /-- Electronics. -/
  | electronics
  /-- Books. -/
  | books
  /-- Things for the kitchen. -/
  | kitchen
  /-- Clothing. -/
  | clothing
  /-- Decoration. -/
  | decor
  /-- Anything else. -/
  | other
  deriving DecidableEq, Repr

instance : Labelled ItemType where
  kind := "item type"
  all := [.furniture, .electronics, .books, .kitchen, .clothing, .decor, .other]
  label
    | .furniture => "Furniture"
    | .electronics => "Electronics"
    | .books => "Books"
    | .kitchen => "Kitchen"
    | .clothing => "Clothing"
    | .decor => "Decor"
    | .other => "Other"
  find?_label a := by cases a <;> decide

/-- How worn an item is. -/
inductive Condition
  /-- Like new. -/
  | excellent
  /-- Used and fully working. -/
  | good
  /-- Worn and still usable. -/
  | fair
  deriving DecidableEq, Repr

instance : Labelled Condition where
  kind := "condition"
  all := [.excellent, .good, .fair]
  label
    | .excellent => "Excellent"
    | .good => "Good"
    | .fair => "Fair"
  find?_label a := by cases a <;> decide

/-- The words for a condition in a form. -/
def Condition.explanation : Condition → String
  | .excellent => "Excellent - Like new, minimal wear"
  | .good => "Good - Some wear but fully functional"
  | .fair => "Fair - Noticeable wear but still usable"

/-- Where an item can be picked up. -/
inductive PickupLocation
  /-- The east part of Cary Quadrangle. -/
  | caryQuadEast
  /-- Wiley Hall. -/
  | wileyHall
  /-- Harrison Hall. -/
  | harrisonHall
  /-- Earhart Hall. -/
  | earhartHall
  /-- Hillenbrand Hall. -/
  | hillenbrandHall
  /-- Third Street Suites. -/
  | thirdStreetSuites
  deriving DecidableEq, Repr

instance : Labelled PickupLocation where
  kind := "location"
  all := [.caryQuadEast, .wileyHall, .harrisonHall, .earhartHall, .hillenbrandHall,
    .thirdStreetSuites]
  label
    | .caryQuadEast => "CaryQuadEast"
    | .wileyHall => "WileyHall"
    | .harrisonHall => "HarrisonHall"
    | .earhartHall => "EarhartHall"
    | .hillenbrandHall => "HillenbrandHall"
    | .thirdStreetSuites => "ThirdStreetSuites"
  find?_label a := by cases a <;> decide

/-- The name of a pickup location. -/
def PickupLocation.name : PickupLocation → String
  | .caryQuadEast => "Cary Quad - East"
  | .wileyHall => "Wiley Hall"
  | .harrisonHall => "Harrison Hall"
  | .earhartHall => "Earhart Hall"
  | .hillenbrandHall => "Hillenbrand Hall"
  | .thirdStreetSuites => "Third Street Suites"

/-- The picture of an item. -/
inductive Emoji
  /-- A chair. -/
  | chair
  /-- A snowflake. -/
  | snowflake
  /-- Books. -/
  | books
  /-- A pan. -/
  | pan
  /-- A monitor. -/
  | monitor
  /-- A palette. -/
  | decor
  deriving DecidableEq, Repr

instance : Labelled Emoji where
  kind := "emoji"
  all := [.chair, .snowflake, .books, .pan, .monitor, .decor]
  label
    | .chair => "Chair"
    | .snowflake => "Snowflake"
    | .books => "Books"
    | .pan => "Pan"
    | .monitor => "Monitor"
    | .decor => "Decor"
  find?_label a := by cases a <;> decide

/-- The characters of a picture. -/
def Emoji.glyph : Emoji → String
  | .chair => String.ofList [Char.ofNat 0x1FA91]
  | .snowflake => String.ofList [Char.ofNat 0x2744, Char.ofNat 0xFE0F]
  | .books => String.ofList [Char.ofNat 0x1F4DA]
  | .pan => String.ofList [Char.ofNat 0x1F373]
  | .monitor => String.ofList [Char.ofNat 0x1F5A5, Char.ofNat 0xFE0F]
  | .decor => String.ofList [Char.ofNat 0x1F3A8]

/-- An item as the index holds it. -/
structure Item where
  /-- The identifier, if the index gives one. -/
  itemId : Option String
  /-- What it is. -/
  itemType : ItemType
  /-- The heading. -/
  title : String
  /-- How worn it is. -/
  condition : Condition
  /-- Where it can be picked up. -/
  location : PickupLocation
  /-- The description. -/
  description : String
  /-- The picture. -/
  emoji : Emoji
  /-- The day after which it is gone, if there is one. -/
  expirationDate : Option String
  /-- Copies of its texts with the matches of a search marked, as the index made them. -/
  formatted : Option Json.Members
  deriving Repr

namespace Item

/-- The name of the member for the marked copies. -/
def formattedKey : String := "_formatted"

/-- The fields of an item. -/
def shape : Decode.Shape Item :=
  Decode.Shape.ofConstructor "Item" Item.mk
    |>.optional "item_id" Decode.text
    |>.required "item_type" Decode.label
    |>.required "title" Decode.text
    |>.required "condition" Decode.label
    |>.required "location" Decode.label
    |>.required "description" Decode.text
    |>.required "emoji" Decode.label
    |>.optional "expiration_date" Decode.text
    |>.optional formattedKey Decode.anyObject

/-- Reads an item. -/
def read : Decode.Reader Item := shape.read

/-- The item as a JSON value; what is absent has no member. -/
def toJson (i : Item) : Json :=
  .object (Decode.member? "item_id" .text i.itemId ++
    [("item_type", Decode.ofLabel i.itemType), ("title", .text i.title),
      ("condition", Decode.ofLabel i.condition), ("location", Decode.ofLabel i.location),
      ("description", .text i.description), ("emoji", Decode.ofLabel i.emoji)] ++
    Decode.member? "expiration_date" .text i.expirationDate ++
    Decode.member? formattedKey .object i.formatted)

end Item

end CampusBoard
