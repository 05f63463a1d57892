import Gamebook.Json.Writer

/-!
# Frames

On a byte stream every message stands behind a header that gives its length in bytes.
-/

namespace Gamebook

/-- A message with its header. -/
def frame (json : Json) : String :=
  let body := json.render
  s!"Content-Length: {body.utf8ByteSize}\r\n\r\n" ++ body

/-- A line of a header. -/
inductive HeaderLine where
  /-- The line that ends the header. -/
  | blank
  | length (bytes : Nat)
  | other
  | malformed
deriving DecidableEq, Repr

namespace HeaderLine

def number? (digits : List Char) : Option Nat :=
  if digits.isEmpty || !digits.all Char.isDigit then none
  else some (digits.foldl (fun value digit => value * 10 + (digit.toNat - '0'.toNat)) 0)

/-- The name and the value of a line, which a colon and a blank divide. -/
def divide? : List Char → Option (List Char × List Char)
  | ':' :: ' ' :: value => some ([], value)
  | char :: rest => (divide? rest).map fun (name, value) => (char :: name, value)
  | [] => none

def ofLine (line : String) : HeaderLine :=
  match line.toList.reverse with
  | '\n' :: '\r' :: reversed =>
      if reversed.isEmpty then
        blank
      else
        match divide? reversed.reverse with
        | none => malformed
        | some (name, value) =>
            if (String.ofList name).toLower = "content-length" then
              ((number? value).map length).getD malformed
            else
              other
  | _ => malformed

end HeaderLine

end Gamebook
