import Gamebook.Text.Blank

/-!
# Types of initial values

The value a variable is declared with is an expression, of which only the literal forms have a
known type.
-/

namespace Gamebook

inductive ValueType where
  | number
  | string
  | boolean
  | unknown
deriving DecidableEq, Repr

namespace ValueType

def name : ValueType → String
  | number => "number"
  | string => "string"
  | boolean => "boolean"
  | unknown => "unknown"

/-- Whether the text is an exponent: its mark, perhaps a sign, and digits. -/
def isExponent : List Char → Bool
  | [] => false
  | mark :: rest =>
      let digits :=
        match rest with
        | '+' :: digits => digits
        | '-' :: digits => digits
        | digits => digits
      (mark == 'e' || mark == 'E') && !digits.isEmpty && digits.all Char.isDigit

/-- Whether the text is a decimal number without a sign: digits with at most one point among or
around them, and perhaps an exponent. -/
def isDecimal (text : List Char) : Bool :=
  let whole := text.takeWhile Char.isDigit
  let (fraction, rest) :=
    match text.dropWhile Char.isDigit with
    | '.' :: rest => (rest.takeWhile Char.isDigit, rest.dropWhile Char.isDigit)
    | rest => ([], rest)
  !(whole.isEmpty && fraction.isEmpty) && (rest.isEmpty || isExponent rest)

/-- Whether the text is a number: perhaps a sign, then a decimal number, an infinity or
not-a-number. -/
def isNumber (text : List Char) : Bool :=
  let magnitude :=
    match text with
    | '+' :: rest => rest
    | '-' :: rest => rest
    | _ => text
  ["inf", "infinity", "nan"].contains (String.ofList magnitude).toLower || isDecimal magnitude

/-- The type of an expression, known only for literals. -/
def infer (value : String) : ValueType :=
  let chars := trimChars value.toList
  let word := (String.ofList chars).toLower
  if word == "true" || word == "false" then boolean
  else if chars.head? == some '"' then string
  else if isNumber chars then number
  else unknown

end ValueType

end Gamebook
