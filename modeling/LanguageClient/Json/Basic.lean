/-!
# JSON values

`Json` is a JSON value as it is written: an object keeps its members in order, repeated names
included, and a number that is no plain integer keeps its digits. A value can be well formed and
yet denote nothing; it may stand where nobody looks. `Json.settled` lets the last of several
members with one name win, which is what a value means where it is passed on.
-/

namespace LanguageClient

/-- A JSON value. -/
inductive Json
  | null
  | bool (b : Bool)
  | integer (n : Int)
  /-- A number written with a fraction, an exponent or as `-0`. -/
  | decimal (literal : String)
  | string (s : String)
  | array (items : List Json)
  | object (members : List (String × Json))
  /-- A value that denotes nothing: a string with half of a surrogate pair, an object with such a
  name in it, a number beyond those of double precision, or an array or object that is nested too
  deep. -/
  | broken
  deriving Inhabited, Repr

namespace Json

/-- Sets a member. A name that is there already keeps its place. -/
def setMember (name : String) (value : Json) :
    List (String × Json) → List (String × Json)
  | [] => [(name, value)]
  | (n, v) :: rest =>
    if n = name then (name, value) :: rest else (n, v) :: setMember name value rest

mutual

/-- The value with one member for each name, the last one, throughout. -/
def settled : Json → Json
  | array items => array (settledItems items)
  | object members => object (settledMembers [] members)
  | value => value

/-- `settled` for the items of an array. -/
def settledItems : List Json → List Json
  | [] => []
  | value :: rest => settled value :: settledItems rest

/-- `settled` for the members of an object, behind the members `done`. -/
def settledMembers (done : List (String × Json)) :
    List (String × Json) → List (String × Json)
  | [] => done
  | (name, value) :: rest => settledMembers (setMember name (settled value) done) rest

end

mutual

/-- Whether a value denotes something, with all that is in it. -/
def isSound : Json → Bool
  | broken => false
  | array items => areSound items
  | object members => areMembersSound members
  | _ => true

/-- `isSound` for the items of an array. -/
def areSound : List Json → Bool
  | [] => true
  | value :: rest => isSound value && areSound rest

/-- `isSound` for the members of an object. -/
def areMembersSound : List (String × Json) → Bool
  | [] => true
  | (_, value) :: rest => isSound value && areMembersSound rest

end

/-- The member of an object by its name. -/
def member? (name : String) : Json → Option Json
  | object members => members.lookup name
  | _ => none

end Json

end LanguageClient
