import Gamebook.Json.Reader
import Gamebook.Protocol.Frame
import Gamebook.Server.Reads

/-!
# The program

The server on the standard streams: messages are read and written in frames, files are read from
and written to the disk, and time passes.
-/

namespace Gamebook

inductive Incoming where
  | message (message : Message)
  | ended
  /-- Something that is no message. -/
  | malformed

/-- The rest of a header: the length of the message, if the header is well formed. -/
partial def readHeader (input : IO.FS.Stream) (length : Option Nat) :
    IO (Option (Option Nat)) := do
  let line ← input.getLine
  if line.isEmpty then
    return none
  match HeaderLine.ofLine line with
  | .blank => return some length
  | .length bytes => readHeader input (some bytes)
  | .other => readHeader input length
  | .malformed => return some none

/-- Exactly so many bytes, or fewer at the end of the input. -/
partial def readBytes (input : IO.FS.Stream) (count : Nat) (before : ByteArray) :
    IO ByteArray := do
  if before.size < count then
    let bytes ← input.read (count - before.size).toUSize
    if bytes.isEmpty then return before else readBytes input count (before ++ bytes)
  else
    return before

def readMessage (input : IO.FS.Stream) : IO Incoming := do
  match ← readHeader input none with
  | none => return .ended
  | some none => return .malformed
  | some (some count) =>
      let bytes ← readBytes input count .empty
      if bytes.size < count then
        return .malformed
      match ((String.fromUTF8? bytes).bind Json.parse?).bind Message.ofJson? with
      | some message => return .message message
      | none => return .malformed

def writeMessages (output : IO.FS.Stream) (messages : List Outgoing) : IO Unit := do
  for message in messages do
    output.putStr (frame message.toJson)
  output.flush

/-- The tree with what is on disk at a place. -/
def loadEntry (tree : FileTree) (route : Route) : IO FileTree := do
  let place := (← IO.currentDir) / route.toPath.text
  if ← place.isDir then
    return tree.set route .directory
  else if ← place.pathExists then
    let content ← try some <$> IO.FS.readBinFile place catch _ => pure none
    match content.bind String.fromUTF8? with
    | some text => return tree.set route (.text text)
    | none => return tree.set route .undecodable
  else
    return tree

def loadFile (tree : FileTree) (path : FilePath) : IO FileTree := do
  match path.isUsable, tree.start? path with
  | true, some here => (here.along path.names).foldlM loadEntry tree
  | _, _ => return tree

/-- The tree with a directory and its scene files. -/
def loadDirectory (tree : FileTree) (path : FilePath) : IO FileTree := do
  let tree ← loadFile tree path
  match tree.resolve path with
  | .error _ => return tree
  | .ok route =>
      let place := (← IO.currentDir) / route.toPath.text
      if ← place.isDir then
        let names := (← place.readDir).toList.map (·.fileName)
        (names.filter fun name => Uri.isSceneFile name).foldlM
          (fun tree name => loadEntry tree (route ++ [name])) tree
      else
        return tree

def loadFiles (reads : Reads) : IO FileTree := do
  let here := FilePath.names ⟨(← IO.currentDir).toString⟩
  let tree ← reads.files.foldlM loadFile { workingDirectory := some here }
  reads.directories.foldlM loadDirectory tree

/-- Writes what has changed to disk: beside the file first, then in its place. -/
def saveFiles (writes : List (Route × FileEntry)) : IO Unit := do
  for (route, entry) in writes do
    try
      let place := (← IO.currentDir) / route.toPath.text
      let beside := (← IO.currentDir) / (route.toPath.text ++ ".new")
      match entry with
      | .directory => IO.FS.createDirAll place
      | .undecodable => pure ()
      | .text content =>
          IO.FS.writeFile beside content
          IO.FS.rename beside place
    catch error =>
      (← IO.getStderr).putStrLn s!"{error}"

/-- The user's configuration directory. -/
def findConfigDirectory : IO (Option String) := do
  let isAbsolute (path : String) : Bool := path.toList.head? == some '/'
  match (← IO.getEnv "XDG_CONFIG_HOME").filter isAbsolute with
  | some directory => return some directory
  | none => return (← IO.getEnv "HOME").map (· ++ "/.config")

/-- How long the server sleeps while nothing happens, in milliseconds. -/
def pause : UInt32 := 5

/-- Serves a client until the connection is closed.  The next message is read meanwhile. -/
partial def serve (configDirectory : Option String) (input output : IO.FS.Stream)
    (connection : Connection) (next : Task (Except IO.Error Incoming)) : IO UInt32 := do
  let now ← IO.monoMsNow
  if let .closed code := connection then
    return code.toUInt32
  if ← IO.hasFinished next then
    match next.get with
    | .ok (.message message) =>
        let files ← loadFiles (connection.reads (some message))
        let (connection, changed, sent) := connection.receive configDirectory files now message
        saveFiles (changed.writesSince files)
        writeMessages output sent
        serve configDirectory input output connection (← IO.asTask (readMessage input))
    | .ok .ended => return connection.exitCode.toUInt32
    | _ => return Connection.failure.toUInt32
  else if connection.nextDeadline?.any (· ≤ now) then
    let files ← loadFiles (connection.reads none)
    let (connection, sent) := connection.tick files now
    writeMessages output sent
    serve configDirectory input output connection next
  else
    IO.sleep pause
    serve configDirectory input output connection next

end Gamebook

/-- Prints what the arguments ask for, or serves a client on the standard streams. -/
def main (arguments : List String) : IO UInt32 := do
  match Gamebook.Invocation.ofArguments arguments with
  | .serve =>
      let input ← IO.getStdin
      Gamebook.serve (← Gamebook.findConfigDirectory) input (← IO.getStdout) .waiting
        (← IO.asTask (Gamebook.readMessage input))
  | invocation =>
      (← IO.getStdout).putStr invocation.output
      return 0
