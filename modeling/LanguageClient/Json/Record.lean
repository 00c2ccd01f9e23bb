import LanguageClient.Json.Basic

/-!
# Records in JSON

A record is written as an object, whose members may come in any order, or as the array of its
members in the order in which the record declares them. Members that a record does not know are
passed over; one that it knows may be given once.

A reader is a function `Json → Option α`. Types are never coerced: a number does not stand for
a string, nor a fraction for an integer.
-/

namespace LanguageClient.Json

/-- The known members of a record. -/
abbrev Fields := List (String × Json)

/-- The members that a record knows. As an array it gives at least `least` of them. -/
def fields? (names : List String) (least : Nat) : Json → Option Fields
  | object members =>
    let known := members.filter fun (name, _) => names.contains name
    if (known.map (·.1)).Nodup then some known else none
  | array items =>
    if least ≤ items.length ∧ items.length ≤ names.length then some (names.zip items) else none
  | _ => none

/-- A member that has to be there. -/
def Fields.required {α : Type} (fields : Fields) (name : String) (read : Json → Option α) :
    Option α :=
  match List.lookup name fields with
  | some value => read value
  | none => none

/-- A member that may be missing or null. -/
def Fields.optional {α : Type} (fields : Fields) (name : String) (read : Json → Option α) :
    Option (Option α) :=
  match List.lookup name fields with
  | some null | none => some none
  | some value => (read value).map some

/-- A member that may be missing, but not null. -/
def Fields.withDefault {α : Type} (fields : Fields) (name : String) (default : α)
    (read : Json → Option α) : Option α :=
  match List.lookup name fields with
  | some value => read value
  | none => some default

/-- Reads a truth value. -/
def bool? : Json → Option Bool
  | bool b => some b
  | _ => none

/-- Reads a string. -/
def string? : Json → Option String
  | string s => some s
  | _ => none

/-- Reads a name of a fixed choice: a string, or an object whose only member has that name and
is null. -/
def name? : Json → Option String
  | string s => some s
  | object [(s, null)] => some s
  | _ => none

/-- Reads any value that denotes something, as it is passed on. -/
def any? (value : Json) : Option Json := if value.isSound then some value.settled else none

/-- Reads an unsigned number of so many bits. -/
def unsigned? (bits : Nat) : Json → Option Nat
  | integer n => if 0 ≤ n ∧ n.toNat < 1 <<< bits then some n.toNat else none
  | _ => none

/-- Reads a signed number of so many bits. -/
def signed? (bits : Nat) : Json → Option Int
  | integer n =>
    let bound : Nat := 1 <<< (bits - 1)
    if -bound ≤ n ∧ n < bound then some n else none
  | _ => none

/-- Reads an array, all of whose items are read by `read`. -/
def list? {α : Type} (read : Json → Option α) : Json → Option (List α)
  | array items => items.mapM read
  | _ => none

/-- The object of those members that are there. -/
def ofMembers (members : List (String × Option Json)) : Json :=
  object (members.filterMap fun (name, value) => value.map (name, ·))

end LanguageClient.Json
