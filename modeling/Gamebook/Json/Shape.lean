import Gamebook.Json.Basic

/-!
# Shapes of JSON values

A shape says which values may stand at a place.  Shapes are for what is read only to find out
whether it could be read: a client that sends something of another shape is not understood, whether
or not the value would have been used.
-/

namespace Gamebook

/-- Which values may stand at a place. -/
abbrev Shape := Json → Bool

def Json.fitting? (shape : Shape) (json : Json) : Option Json :=
  if shape json then some json else none

namespace Shape

def any : Shape := fun _ => true

def flag : Shape := fun json => json.bool?.isSome

def text : Shape := fun json => json.string?.isSome

def signed : Shape := fun json => json.signed32?.isSome

def unsigned : Shape := fun json => json.unsigned32?.isSome

def choice (names : List String) : Shape := fun json => json.alternative?.any names.contains

/-- Null, and the values of a shape. -/
def optional (shape : Shape) : Shape := fun json => json.isNull || shape json

def either (first second : Shape) : Shape := fun json => first json || second json

def list (shape : Shape) : Shape := fun json => json.array?.any (·.all shape)

/-- Objects whose members have shapes.  A missing member counts as null, and members of other names
do not matter. -/
def object (members : List (String × Shape)) : Shape := fun json =>
  json.members?.isSome &&
    members.all fun member => member.2 ((json.get? member.1).getD .null)

def record (members : List (String × Shape)) : Shape := fun json =>
  (json.record? (members.map (·.1))).any (object members)

end Shape

end Gamebook
