import Gamebook.Json.Shape
import Gamebook.Protocol.Encoding

/-!
# Messages

What a client and the server send each other.  A message with an identifier and a method is a
request, one with a method alone a notification, and one with an identifier alone a response.
-/

namespace Gamebook

/-- What a response names its request by. -/
inductive RequestId where
  | number (value : Int)
  | text (value : String)
deriving DecidableEq, Repr

namespace RequestId

/-- An identifier: a number of 32 bits or a string. -/
def ofJson? : Json → Option RequestId
  | .string value => some (text value)
  | json => json.signed32?.map number

def toJson : RequestId → Json
  | number value => .int value
  | text value => .string value

end RequestId

inductive Message where
  | request (id : RequestId) (method : String) (params : Json)
  | notification (method : String) (params : Json)
  | response (id : RequestId)

namespace Message

def request? (json : Json) : Option Message := do
  let json ← json.openRecord? ["id", "method", "params"]
  let id ← json.member? "id" RequestId.ofJson?
  return request id (← json.member? "method" Json.string?) ((json.get? "params").getD .null)

/-- What a response may report as a failure. -/
def failure : Shape :=
  .record [("code", .signed), ("message", .text), ("data", .any)]

def response? (json : Json) : Option Message := do
  let json ← json.record? ["id", "result", "error"]
  let _ ← json.optional? "error" (Json.fitting? failure)
  return response (← json.member? "id" RequestId.ofJson?)

def notification? (json : Json) : Option Message := do
  let json ← json.openRecord? ["method", "params"]
  return notification (← json.member? "method" Json.string?) ((json.get? "params").getD .null)

/-- The message a value stands for: the first of the three that fits. -/
def ofJson? (json : Json) : Option Message :=
  (request? json <|> response? json) <|> notification? json

end Message

/-- Why a request failed. -/
inductive RequestFailure where
  | unknownMethod (method : String)
  | notStarted
  | unreadable
  | refused (message : String)
deriving DecidableEq, Repr

namespace RequestFailure

def code : RequestFailure → Int
  | unknownMethod _ => -32601
  | notStarted => -32002
  | unreadable | refused _ => -32603

def message : RequestFailure → String
  | unknownMethod method => s!"Unhandled request: {method}"
  | notStarted => "expected initialize request"
  | unreadable => "the parameters cannot be read"
  | refused message => message

end RequestFailure

structure Publication where
  uri : Uri
  diagnostics : List Diagnostic
  /-- The version of the text; none for a document that is closed. -/
  version : Option Int

namespace Publication

def toJson (publication : Publication) : Json :=
  .ofMembers
    [ ("uri", some (.string publication.uri)),
      ("diagnostics", some (.ofList Diagnostic.toJson publication.diagnostics)),
      ("version", publication.version.map .int) ]

end Publication

inductive Outgoing where
  | response (id : RequestId) (outcome : Except RequestFailure Json)
  | publish (publication : Publication)
  | request (id method : String) (params : Json)

namespace Outgoing

def toJson : Outgoing → Json
  | response id outcome =>
      let body :=
        match outcome with
        | .ok result => ("result", result)
        | .error failure =>
            ("error", .object
              [("code", .int failure.code), ("message", .string failure.message)])
      .object [("jsonrpc", .string "2.0"), ("id", id.toJson), body]
  | publish publication =>
      .object
        [ ("jsonrpc", .string "2.0"), ("method", .string "textDocument/publishDiagnostics"),
          ("params", publication.toJson) ]
  | request id method params =>
      .object
        [ ("jsonrpc", .string "2.0"), ("id", .string id), ("method", .string method),
          ("params", params) ]

end Outgoing

end Gamebook
