import LanguageClient.Json.Record

/-!
# Shapes of JSON values

A shape says what a value has to look like where nothing of the value is kept. `Shape.admits` is
the check: it accepts a value exactly if a reader of that shape would.
-/

namespace LanguageClient.Json

mutual

/-- What a value has to look like. -/
inductive Shape
  /-- Any value that denotes something. -/
  | any
  | bool
  /-- A signed number of 32 bits. -/
  | integer
  | string
  /-- One of several names. -/
  | choice (names : List String)
  | list (item : Shape)
  /-- A record. -/
  | record (members : List Member)
  /-- A record that is written as an object, all of which denotes something. -/
  | options (members : List Member)
  /-- A value of one of several shapes, which denotes something. -/
  | either (alternatives : List Shape)

/-- A member of a record. One that is not required may be missing or null. -/
inductive Member
  | required (name : String) (shape : Shape)
  | optional (name : String) (shape : Shape)

end

namespace Member

/-- The name of a member. -/
def name : Member → String
  | required name _ => name
  | optional name _ => name

end Member

namespace Shape

/-- The members of a record that are there, by the names that it knows. -/
def fields? (members : List Member) (value : Json) : Option Fields :=
  value.fields? (members.map Member.name) members.length

mutual

/-- Whether a value has a shape. -/
def admits : Shape → Json → Bool
  | any, value => value.isSound
  | bool, value => value.bool?.isSome
  | integer, value => (value.signed? 32).isSome
  | string, value => value.string?.isSome
  | choice names, value => value.name?.any names.contains
  | list item, value =>
    match value with
    | .array items => items.all fun value => admits item value
    | _ => false
  | record members, value => (fields? members value).any fun fields => admitsAll members fields
  | options members, value =>
    match value with
    | .object _ =>
      value.isSound && (fields? members value).any fun fields => admitsAll members fields
    | _ => false
  | either alternatives, value => value.isSound && admitsAny alternatives value

/-- Whether the members of a record have their shapes. -/
def admitsAll : List Member → Fields → Bool
  | [], _ => true
  | member :: rest, fields => admitsMember member fields && admitsAll rest fields

/-- Whether a member of a record has its shape. -/
def admitsMember : Member → Fields → Bool
  | .required name shape, fields => (List.lookup name fields).any fun value => admits shape value
  | .optional name shape, fields =>
    match List.lookup name fields with
    | none | some .null => true
    | some value => admits shape value

/-- Whether a value has one of several shapes. -/
def admitsAny : List Shape → Json → Bool
  | [], _ => false
  | shape :: rest, value => admits shape value || admitsAny rest value

end

end Shape

end LanguageClient.Json
