import Gamebook.Json.Basic

/-!
# Reading JSON

A reader for JSON texts by recursive descent.  Each step consumes a character, so the length of
the text bounds the descent.  Values are not read when they are nested too deeply.  Of several
members with one key the last counts.
-/

namespace Gamebook

namespace Json

/-- The four characters that JSON allows between tokens. -/
def isGap (char : Char) : Bool :=
  char == ' ' || char == '\t' || char == '\n' || char == '\r'

def hexDigit? (char : Char) : Option Nat :=
  if char.isDigit then some (char.toNat - '0'.toNat)
  else if 'a' ≤ char ∧ char ≤ 'f' then some (char.toNat - 'a'.toNat + 10)
  else if 'A' ≤ char ∧ char ≤ 'F' then some (char.toNat - 'A'.toNat + 10)
  else none

/-- The value of four hexadecimal digits and what follows them. -/
def readHex? : List Char → Option (Nat × List Char)
  | a :: b :: c :: d :: rest => do
      let a ← hexDigit? a
      let b ← hexDigit? b
      let c ← hexDigit? c
      let d ← hexDigit? d
      some (((a * 16 + b) * 16 + c) * 16 + d, rest)
  | _ => none

/-- The character of a unit escape; a high surrogate takes a second escape with it. -/
def readUnit? (text : List Char) : Option (Char × List Char) := do
  let (high, rest) ← readHex? text
  if 0xD800 ≤ high ∧ high < 0xDC00 then
    match rest with
    | '\\' :: 'u' :: rest => do
        let (low, rest) ← readHex? rest
        if 0xDC00 ≤ low ∧ low < 0xE000 then
          some (Char.ofNat (0x10000 + (high - 0xD800) * 0x400 + (low - 0xDC00)), rest)
        else
          none
    | _ => none
  else if 0xDC00 ≤ high ∧ high < 0xE000 then
    none
  else
    some (Char.ofNat high, rest)

/-- The character of a one-letter escape. -/
def simpleEscape? : Char → Option Char
  | '"' => some '"'
  | '\\' => some '\\'
  | '/' => some '/'
  | 'b' => some '\x08'
  | 'f' => some '\x0c'
  | 'n' => some '\n'
  | 'r' => some '\r'
  | 't' => some '\t'
  | _ => none

/-- The rest of a string literal whose characters so far, backwards, are `read`. -/
def readString? : Nat → List Char → List Char → Option (String × List Char)
  | 0, _, _ => none
  | fuel + 1, read, text =>
      match text with
      | [] => none
      | '"' :: rest => some (String.ofList read.reverse, rest)
      | '\\' :: 'u' :: rest => do
          let (char, rest) ← readUnit? rest
          readString? fuel (char :: read) rest
      | '\\' :: escape :: rest => do
          let char ← simpleEscape? escape
          readString? fuel (char :: read) rest
      | char :: rest => if char.toNat < 0x20 then none else readString? fuel (char :: read) rest

def digitsValue (digits : List Char) : Nat :=
  digits.foldl (fun value digit => value * 10 + (digit.toNat - '0'.toNat)) 0

/-- A fraction, if one follows: its literal and what comes after; nothing for a lone point. -/
def readFraction? : List Char → Option (List Char × List Char)
  | '.' :: rest =>
      let digits := rest.takeWhile Char.isDigit
      if digits.isEmpty then none else some ('.' :: digits, rest.dropWhile Char.isDigit)
  | text => some ([], text)

/-- An exponent, if one follows: its literal and what comes after; nothing without digits. -/
def readExponent? : List Char → Option (List Char × List Char)
  | [] => some ([], [])
  | mark :: rest =>
      if mark == 'e' || mark == 'E' then
        let (sign, rest) :=
          match rest with
          | '+' :: rest => (['+'], rest)
          | '-' :: rest => (['-'], rest)
          | rest => ([], rest)
        let digits := rest.takeWhile Char.isDigit
        if digits.isEmpty then none else some (mark :: sign ++ digits, rest.dropWhile Char.isDigit)
      else
        some ([], mark :: rest)

/-- A number and what follows it.  A leading zero stands alone, and the negative zero is no
integer. -/
def readNumber? (text : List Char) : Option (Json × List Char) := do
  let (negative, unsigned) :=
    match text with
    | '-' :: rest => (true, rest)
    | _ => (false, text)
  let digits :=
    match unsigned with
    | '0' :: _ => ['0']
    | _ => unsigned.takeWhile Char.isDigit
  if digits.isEmpty then
    none
  let (fraction, rest) ← readFraction? (unsigned.drop digits.length)
  let (exponent, rest) ← readExponent? rest
  let magnitude := digitsValue digits
  if fraction.isEmpty && exponent.isEmpty && !(negative && magnitude == 0) then
    some (int (if negative then -Int.ofNat magnitude else Int.ofNat magnitude), rest)
  else
    let sign := if negative then ['-'] else []
    some (decimal (String.ofList (sign ++ digits ++ fraction ++ exponent)), rest)

def putMember (members : List (String × Json)) (key : String) (value : Json) :
    List (String × Json) :=
  if members.any (·.1 == key) then
    members.map fun member => if member.1 == key then (key, value) else member
  else
    members ++ [(key, value)]

/-- How deeply arrays and objects may be nested. -/
def deepestNesting : Nat := 127

mutual

/-- A value and what follows it; arrays and objects in it may be nested `depth` deep. -/
def readValue? : Nat → Nat → List Char → Option (Json × List Char)
  | 0, _, _ => none
  | fuel + 1, depth, text =>
      match text.dropWhile isGap with
      | 'n' :: 'u' :: 'l' :: 'l' :: rest => some (null, rest)
      | 't' :: 'r' :: 'u' :: 'e' :: rest => some (bool true, rest)
      | 'f' :: 'a' :: 'l' :: 's' :: 'e' :: rest => some (bool false, rest)
      | '"' :: rest => do
          let (value, rest) ← readString? (rest.length + 1) [] rest
          some (string value, rest)
      | '[' :: rest =>
          match depth, rest.dropWhile isGap with
          | 0, _ => none
          | _ + 1, ']' :: rest => some (array [], rest)
          | depth + 1, rest => readItems? fuel depth [] rest
      | '{' :: rest =>
          match depth, rest.dropWhile isGap with
          | 0, _ => none
          | _ + 1, '}' :: rest => some (object [], rest)
          | depth + 1, rest => readMembers? fuel depth [] rest
      | rest => readNumber? rest

/-- The rest of an array that is not empty, after the items `read`, kept backwards. -/
def readItems? : Nat → Nat → List Json → List Char → Option (Json × List Char)
  | 0, _, _, _ => none
  | fuel + 1, depth, read, text => do
      let (item, rest) ← readValue? fuel depth text
      match rest.dropWhile isGap with
      | ',' :: rest => readItems? fuel depth (item :: read) rest
      | ']' :: rest => some (array (item :: read).reverse, rest)
      | _ => none

/-- The rest of an object that is not empty, after the members `read`. -/
def readMembers? : Nat → Nat → List (String × Json) → List Char → Option (Json × List Char)
  | 0, _, _, _ => none
  | fuel + 1, depth, read, text =>
      match text.dropWhile isGap with
      | '"' :: rest => do
          let (key, rest) ← readString? (rest.length + 1) [] rest
          match rest.dropWhile isGap with
          | ':' :: rest => do
              let (value, rest) ← readValue? fuel depth rest
              match rest.dropWhile isGap with
              | ',' :: rest => readMembers? fuel depth (putMember read key value) rest
              | '}' :: rest => some (object (putMember read key value), rest)
              | _ => none
          | _ => none
      | _ => none

end

/-- The value a JSON text denotes, or nothing when the text is not JSON. -/
def parse? (text : String) : Option Json := do
  let chars := text.toList
  let (value, rest) ← readValue? (chars.length + 1) deepestNesting chars
  if rest.all isGap then some value else none

end Json

end Gamebook
