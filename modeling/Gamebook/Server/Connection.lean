import Gamebook.Protocol.Capabilities
import Gamebook.Protocol.ClientCapabilities
import Gamebook.Server.Session

/-!
# Connections

A connection begins with a handshake: the client asks to start, is told what the server can do, and
confirms.  Only then a session runs on it, until the client leaves.
-/

namespace Gamebook

/-- How far a connection has come. -/
inductive Connection where
  | waiting
  | greeted (session : Session)
  | running (session : Session)
  | closed (code : Nat)

namespace Connection

def success : Nat := 0

/-- The exit code after a handshake that failed. -/
def failure : Nat := 1

/-- Parameters of the request to start: what a client tells about itself, the folders that it has
open, and how much it wants to be told about the work of the server. -/
def introduction : Shape :=
  .object
    [ ("capabilities", ClientCapabilities.all),
      ("processId", .optional .unsigned),
      ("rootPath", .optional .text),
      ("rootUri", .optional .uri),
      ("locale", .optional .text),
      ("trace", .optional (.choice ["off", "messages", "verbose"])),
      ("clientInfo", .optional (.record [("name", .text), ("version", .optional .text)])),
      ("workspaceFolders", .optional (.list (.record [("uri", .uri), ("name", .text)]))),
      ("workDoneToken", .optional .token) ]

/-- The settings in the parameters of the request to start; none when the parameters cannot be
read.  Settings that cannot be read count as the default ones. -/
def initialSettings? (params : Json) : Option Settings := do
  let params ← params.fitting? introduction
  let options ← params.optional? "initializationOptions" some
  return ((options.bind Settings.ofJson?).getD {})

def sessionOf (settings : Settings) (configDirectory : Option String) : Session :=
  .start { store := .ofSettings settings, configDirectory }

/-- What the first message leads to.  Requests other than the one to start are refused, and
notifications other than the one to exit are passed over. -/
def begin (configDirectory : Option String) : Message → Connection × List Outgoing
  | .request id "initialize" params =>
      match initialSettings? params with
      | some settings =>
          (.greeted (sessionOf settings configDirectory),
            [.response id (.ok settings.features.greeting)])
      | none => (.closed failure, [])
  | .request id _ _ => (.waiting, [.response id (.error .notStarted)])
  | .notification "exit" _ => (.closed failure, [])
  | .notification _ _ => (.waiting, [])
  | .response _ => (.closed failure, [])

/-- The connection that a session runs on, or its end when the client wants to exit, and what the
session has sent. -/
def ofSession (session : Session) : Connection × List Outgoing :=
  let (session, sent) := session.takeOutbox
  (if session.exitRequested then .closed success else .running session, sent)

def receive (connection : Connection) (configDirectory : Option String) (files : FileTree)
    (now : Nat) (message : Message) : Connection × FileTree × List Outgoing :=
  match connection with
  | .waiting =>
      let (connection, sent) := begin configDirectory message
      (connection, files, sent)
  | .greeted session =>
      match message with
      | .notification "initialized" _ => (.running session, files, [])
      | _ => (.closed failure, files, [])
  | .running session =>
      let (session, files) := session.handle files now (.message message)
      let (connection, sent) := ofSession session
      (connection, files, sent)
  | .closed code => (.closed code, files, [])

def tick (connection : Connection) (files : FileTree) (now : Nat) : Connection × List Outgoing :=
  match connection with
  | .running session => ofSession (session.handle files now .tick).1
  | _ => (connection, [])

/-- When the connection has something to do by itself. -/
def nextDeadline? : Connection → Option Nat
  | .running session => session.schedule.nextDeadline?
  | _ => none

def exitCode : Connection → Nat
  | .waiting | .greeted _ => failure
  | .running _ => success
  | .closed code => code

def receiveAll (connection : Connection) (configDirectory : Option String) (files : FileTree)
    (now : Nat) : List Message → Connection × List Outgoing
  | [] => (connection, [])
  | message :: rest =>
      let (connection, files, sent) := connection.receive configDirectory files now message
      let (connection, more) := connection.receiveAll configDirectory files now rest
      (connection, sent ++ more)

end Connection

/-! ## The command line -/

inductive Invocation where
  | showVersion
  | showHelp
  | serve
deriving DecidableEq, Repr

namespace Invocation

/-- What the arguments ask for; unknown ones are passed over. -/
def ofArguments (arguments : List String) : Invocation :=
  if arguments.any fun argument => argument == "--version" || argument == "-V" then showVersion
  else if arguments.any fun argument => argument == "--help" || argument == "-h" then showHelp
  else serve

def helpLines : List String :=
  [ "ChoiceScript Language Server",
    "",
    "Usage: choicescript-lsp [OPTIONS]",
    "",
    "Options:",
    "  -h, --help     Print help",
    "  -V, --version  Print version",
    "",
    "The server communicates via stdio using the Language Server Protocol.",
    "",
    "Environment variables:",
    "  RUST_LOG       Set log level (e.g., RUST_LOG=choicescript_lsp=debug)" ]

/-- What is printed; a server prints nothing but messages. -/
def output : Invocation → String
  | showVersion => s!"{serverName} {serverVersion}\n"
  | showHelp => String.join (helpLines.map (· ++ "\n"))
  | serve => ""

end Invocation

end Gamebook
