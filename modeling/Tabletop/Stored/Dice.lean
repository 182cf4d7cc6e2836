import Tabletop.Json.Fields
import Tabletop.Dice.Throw

namespace Tabletop.Dice

namespace Quantity

def toJson (q : Quantity) : Json :=
  .record [("sides", .whole q.sides.toInt), ("quantity", .whole q.count.toInt)]

def ofJson? (j : Json) : Option Quantity := do
  let fields ← j.fields? ["sides", "quantity"]
  return ⟨← Json.required? fields "sides" Json.int32?,
    ← Json.required? fields "quantity" Json.int32?⟩

end Quantity

namespace Modifier

def toJson (m : Modifier) : Json :=
  .record (("value", .float m.value) :: Json.optionalField "name" .text m.name)

def ofJson? (j : Json) : Option Modifier := do
  let fields ← j.fields? ["value", "name"]
  return ⟨← Json.required? fields "value" Json.float?, ← Json.optional? fields "name" Json.text?⟩

end Modifier

namespace Roll

def toJson (r : Roll) : Json :=
  .record <|
    [("quantities", .list (r.quantities.toList.map Quantity.toJson)),
      ("modifiers", .list (r.modifiers.toList.map Modifier.toJson))] ++
    Json.optionalField "name" .text r.name

def ofJson? (j : Json) : Option Roll := do
  let fields ← j.fields? ["quantities", "modifiers", "name"]
  let quantities ← Json.required? fields "quantities" (Json.listOf? Quantity.ofJson?)
  let modifiers ← Json.defaulted? fields "modifiers" (Json.listOf? Modifier.ofJson?) []
  return ⟨.ofList quantities, .ofList modifiers, ← Json.optional? fields "name" Json.text?⟩

end Roll

namespace Component

def toJson (c : Component) : Json :=
  .record [("quantity", c.quantity.toJson), ("faces", .list (c.faces.map fun f : Nat => .whole f)),
    ("subtotal", .whole c.subtotal)]

def ofJson? (j : Json) : Option Component := do
  let fields ← j.fields? ["quantity", "faces", "subtotal"]
  return ⟨← Json.required? fields "quantity" Quantity.ofJson?,
    ← Json.required? fields "faces" (Json.listOf? (Json.nat? UInt32.size)),
    ← Json.required? fields "subtotal"
      (Json.int? Int64.minValue.toInt Int64.maxValue.toInt)⟩

end Component

namespace Throw

def toJson (t : Throw) : Json :=
  .record [("components", .list (t.components.map Component.toJson)),
    ("modifier", .float t.modifier), ("total", .float t.total)]

def ofJson? (j : Json) : Option Throw := do
  let fields ← j.fields? ["components", "modifier", "total"]
  return ⟨← Json.required? fields "components" (Json.listOf? Component.ofJson?),
    ← Json.required? fields "modifier" Json.float?, ← Json.required? fields "total" Json.float?⟩

end Throw

end Tabletop.Dice
