import Gamebook.Editor.Diagnostic
import Gamebook.Json.Shape
import Gamebook.Server.TextChange

/-!
# Parameters from JSON

How the values that a client sends are read.  Every member of a known name has to have the right
shape, also one that is not needed; members of other names are passed over.
-/

namespace Gamebook

namespace Json

def uri? (json : Json) : Option Uri := do
  let uri ← json.string?
  if Uri.isValid uri then some uri else none

def documentUri? (json : Json) : Option Uri := do
  (← json.record? ["uri"]).member? "uri" uri?

end Json

namespace Shape

def uri : Shape := fun json => json.uri?.isSome

/-- Names that a client gives to its requests and to reports on them. -/
def token : Shape := either signed text

end Shape

/-- A position of two numbers of 32 bits. -/
def Position.ofJson? (json : Json) : Option Position := do
  let json ← json.record? ["line", "character"]
  return ⟨← json.member? "line" Json.unsigned32?, ← json.member? "character" Json.unsigned32?⟩

def Range.ofJson? (json : Json) : Option Range := do
  let json ← json.record? ["start", "end"]
  return ⟨← json.member? "start" Position.ofJson?, ← json.member? "end" Position.ofJson?⟩

def Location.ofJson? (json : Json) : Option Location := do
  let json ← json.record? ["uri", "range"]
  return ⟨← json.member? "uri" Json.uri?, ← json.member? "range" Range.ofJson?⟩

/-- A change of a text.  The length of the range may be given, and is not needed. -/
def TextChange.ofJson? (json : Json) : Option TextChange := do
  let json ← json.record? ["range", "rangeLength", "text"]
  let _ ← json.optional? "rangeLength" Json.unsigned32?
  return ⟨← json.optional? "range" Range.ofJson?, ← json.member? "text" Json.string?⟩

def DiagnosticCode.ofJson? : Json → Option DiagnosticCode
  | .string code => some (text code)
  | json => json.signed32?.map number

def RelatedPlace.ofJson? (json : Json) : Option RelatedPlace := do
  let json ← json.record? ["location", "message"]
  return ⟨← json.member? "location" Location.ofJson?, ← json.member? "message" Json.string?⟩

/-- A diagnostic that an editor hands back. -/
def Diagnostic.ofJson? (json : Json) : Option Diagnostic := do
  let json ← json.record?
    ["range", "severity", "code", "codeDescription", "source", "message", "relatedInformation",
      "tags", "data"]
  return {
    range := ← json.member? "range" Range.ofJson?
    severity := ← json.optional? "severity" Json.signed32?
    code := ← json.optional? "code" DiagnosticCode.ofJson?
    explanation := ← json.optional? "codeDescription" fun description => do
      (← description.record? ["href"]).member? "href" Json.uri?
    source := ← json.optional? "source" Json.string?
    message := ← json.member? "message" Json.string?
    related := ← json.optional? "relatedInformation" (Json.list? RelatedPlace.ofJson?)
    tags := ← json.optional? "tags" (Json.list? Json.signed32?)
    data := ← json.optional? "data" some }

end Gamebook
