import CqlClient.Json

namespace CqlClient

/-- A value taken from JSON, or what was expected in its place. -/
abbrev Decoded (α : Type) := Except String α

namespace Json

/-- A member of an object; a missing member is null. -/
def get (json : Json) (name : String) : Json :=
  match json with
  | .object members => ((members.find? fun member => member.1 = name).map Prod.snd).getD .null
  | _ => .null

theorem sizeOf_get_lt (members : List (String × Json)) (name : String) :
    sizeOf (get (.object members) name) < sizeOf (Json.object members) := by
  simp only [get]
  cases h : members.find? fun member => member.1 = name with
  | none =>
      have : 0 < sizeOf members := by
        cases members with
        | nil => simp
        | cons _ _ => rw [List.cons.sizeOf_spec]; omega
      simp
      omega
  | some member =>
      have hm := List.sizeOf_lt_of_mem (List.mem_of_find?_eq_some h)
      obtain ⟨key, value⟩ := member
      simp at hm ⊢
      omega

theorem sizeOf_item_lt {items : List Json} {item : Json} (h : item ∈ items) :
    sizeOf item < sizeOf (Json.array items) := by
  have := List.sizeOf_lt_of_mem h
  simp
  omega

/-- Whether a value is null. -/
def isNull : Json → Bool
  | .null => true
  | _ => false

/-- Whether an object has a member that is not null. -/
def has (json : Json) (name : String) : Bool := !(json.get name).isNull

/-- A number as an integer. -/
def toInt : Json → Decoded Int
  | .number (.integer value) => .ok value
  | _ => .error "integer expected"

/-- A number as a natural number. -/
def toNat (json : Json) : Decoded Nat := do
  let value ← json.toInt
  if 0 ≤ value then return value.toNat else throw "natural number expected"

/-- A truth value. -/
def toBool : Json → Decoded Bool
  | .boolean value => .ok value
  | _ => .error "truth value expected"

/-- A string. -/
def toStr : Json → Decoded String
  | .string value => .ok value
  | _ => .error "string expected"

/-- A value that may be null. -/
def toOption {α : Type} (decode : Json → Decoded α) (json : Json) : Decoded (Option α) :=
  if json.isNull then return none else some <$> decode json

/-- A value with a default for null. -/
def toDefault {α : Type} (default : α) (decode : Json → Decoded α) (json : Json) : Decoded α :=
  if json.isNull then return default else decode json

/-- The items of an array. -/
def toList {α : Type} (decode : Json → Decoded α) : Json → Decoded (List α)
  | .array items => items.mapM decode
  | _ => .error "array expected"

/-- The items of an array, none for null. -/
def toListOrNone {α : Type} (decode : Json → Decoded α) : Json → Decoded (List α) :=
  toDefault [] (toList decode)

/-- The members of an object. -/
def toPairs {α : Type} (decode : Json → Decoded α) : Json → Decoded (List (String × α))
  | .object members => members.mapM fun member => do return (member.1, ← decode member.2)
  | _ => .error "object expected"

/-- A truth value, false for null. -/
def toFlag : Json → Decoded Bool := toDefault false toBool

/-- A natural number. -/
def ofNat (n : Nat) : Json := ofInt n

/-- A value that may be missing. -/
def ofOption {α : Type} (encode : α → Json) : Option α → Json
  | none => .null
  | some value => encode value

/-- Values one after another. -/
def ofList {α : Type} (encode : α → Json) (values : List α) : Json :=
  .array (values.map encode)

instance : Coe String Json := ⟨.string⟩

instance : Coe Bool Json := ⟨.boolean⟩

end Json

end CqlClient
