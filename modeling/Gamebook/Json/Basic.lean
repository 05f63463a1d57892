/-!
# JSON values

Settings and protocol messages are JSON.  Only integers are ever computed with, so a number with a
fraction or an exponent keeps its literal and is passed through as it was written.
-/

namespace Gamebook

/-- A JSON value; the members of an object keep their order. -/
inductive Json where
  | null
  | bool (value : Bool)
  | int (value : Int)
  | decimal (literal : String)
  | string (value : String)
  | array (items : List Json)
  | object (members : List (String × Json))
deriving Repr, Inhabited, BEq

namespace Json

/-- The value of an object's member, or nothing when the value is no object or lacks the member. -/
def get? (json : Json) (key : String) : Option Json :=
  match json with
  | object members => members.lookup key
  | _ => none

def path? (json : Json) (keys : List String) : Option Json :=
  keys.foldlM get? json

def string? : Json → Option String
  | string value => some value
  | _ => none

def bool? : Json → Option Bool
  | bool value => some value
  | _ => none

def int? : Json → Option Int
  | int value => some value
  | _ => none

def natBelow? (limit : Nat) : Json → Option Nat
  | int (.ofNat value) => if value < limit then some value else none
  | _ => none

/-- How many numbers 32 bits can hold. -/
def unsignedCount : Nat := 0x100000000

/-- How many of them are not negative when one bit is the sign. -/
def signedCount : Int := 0x80000000

/-- An unsigned number of 32 bits, as lines and columns are. -/
def unsigned32? : Json → Option Nat :=
  natBelow? unsignedCount

/-- A signed number of 32 bits, as document versions are. -/
def signed32? : Json → Option Int
  | int value => if -signedCount ≤ value ∧ value < signedCount then some value else none
  | _ => none

def array? : Json → Option (List Json)
  | array items => some items
  | _ => none

def members? : Json → Option (List (String × Json))
  | object members => some members
  | _ => none

def isNull : Json → Bool
  | null => true
  | _ => false

/-! ## Decoding -/

/-- The decoded value of a member that has to be there. -/
def member? (json : Json) (key : String) (decode : Json → Option α) : Option α :=
  (json.get? key).bind decode

/-- The decoded value of a member, or a default when there is none. -/
def memberOr? (json : Json) (key : String) (default : α) (decode : Json → Option α) : Option α :=
  match json.get? key with
  | none => some default
  | some value => decode value

/-- The decoded value of a member that may be missing or null. -/
def optional? (json : Json) (key : String) (decode : Json → Option α) : Option (Option α) :=
  match json.get? key with
  | none | some null => some none
  | some value => (decode value).map some

def list? (decode : Json → Option α) (json : Json) : Option (List α) :=
  json.array?.bind (·.mapM decode)

/-- The name of an alternative: a string, or the only key of an object, whose value is null. -/
def alternative? : Json → Option String
  | string name => some name
  | object [(name, null)] => some name
  | _ => none

/-- A record as an object.  Records may also come as arrays that give the values of the members in
order, and then values at the end may be left out. -/
def openRecord? (names : List String) : Json → Option Json
  | object members => some (object members)
  | array items => if items.length ≤ names.length then some (object (names.zip items)) else none
  | _ => none

/-- A record as an object, where an array has to give the values of all members. -/
def record? (names : List String) : Json → Option Json
  | array items => if items.length = names.length then some (object (names.zip items)) else none
  | json => json.openRecord? names

/-! ## Encoding -/

def nat (value : Nat) : Json :=
  int (Int.ofNat value)

def ofOption (encode : α → Json) : Option α → Json
  | some value => encode value
  | none => null

def ofList (encode : α → Json) (values : List α) : Json :=
  array (values.map encode)

/-- An object without the members that have no value. -/
def ofMembers (members : List (String × Option Json)) : Json :=
  object (members.filterMap fun member => member.2.map (member.1, ·))

end Json

end Gamebook
