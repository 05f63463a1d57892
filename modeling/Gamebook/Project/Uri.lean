import Gamebook.Files.Path

/-!
# Identifiers of documents

Documents are identified by URIs, which are compared as plain strings.  The directory part of a
URI is the project a document belongs to and the file name gives the name of its scene.  Whether a
string is a URI reference at all follows the generic grammar of URIs.
-/

namespace Gamebook

/-- The identifier of a document. -/
abbrev Uri := String

def sceneExtension : String := ".txt"

namespace Uri

/-- The project of a document: its URI up to and including the last slash. -/
def project (uri : Uri) : String :=
  String.ofList (trimEndChars (· != '/') uri.toList)

def fileName (uri : Uri) : List Char :=
  uri.toList.drop (trimEndChars (· != '/') uri.toList).length

def dropEnding (ending text : List Char) : List Char :=
  if ending.isSuffixOf text then text.take (text.length - ending.length) else text

/-- The name of the scene in a document: the last segment without the ending of scene files. -/
def sceneName (uri : Uri) : String :=
  String.ofList (dropEnding sceneExtension.toList (fileName uri))

def isSceneFile (uri : Uri) : Bool :=
  sceneExtension.toList.isSuffixOf uri.toList

/-- What the URI of a document on disk starts with. -/
def fileScheme : String := "file://"

def path? (uri : Uri) : Option FilePath :=
  if fileScheme.toList.isPrefixOf uri.toList then
    some ⟨String.ofList (uri.toList.drop fileScheme.length)⟩
  else
    none

/-! ## The grammar -/

/-- Letters, digits and the four marks that never need an escape. -/
def isUnreserved (char : Char) : Bool :=
  char.isAlphanum || "-._~".toList.contains char

/-- Marks that may divide a component. -/
def isSubDelimiter (char : Char) : Bool :=
  "!$&'()*+,;=".toList.contains char

def isHexDigit (char : Char) : Bool :=
  char.isDigit || ('a' ≤ char && char ≤ 'f') || ('A' ≤ char && char ≤ 'F')

/-- Whether a text consists of allowed characters and well-formed escapes. -/
def isEscaped (allowed : Char → Bool) : List Char → Bool
  | [] => true
  | '%' :: high :: low :: rest => isHexDigit high && isHexDigit low && isEscaped allowed rest
  | char :: rest => char != '%' && allowed char && isEscaped allowed rest

def isPathChar (char : Char) : Bool :=
  isUnreserved char || isSubDelimiter char || char == ':' || char == '@'

def isPath (text : List Char) : Bool :=
  isEscaped (fun char => isPathChar char || char == '/') text

def isQuery (text : List Char) : Bool :=
  isEscaped (fun char => isPathChar char || char == '/' || char == '?') text

/-- The parts of a text before the first border and behind it, if there is one. -/
def cutAt (border : Char → Bool) (text : List Char) : List Char × Option (List Char) :=
  match text.dropWhile (!border ·) with
  | [] => (text, none)
  | _ :: rest => (text.takeWhile (!border ·), some rest)

/-- Whether a text is a decimal number up to 255 without leading zeros. -/
def isOctet (text : List Char) : Bool :=
  !text.isEmpty && text.all Char.isDigit && text.length ≤ 3 &&
    (text.length == 1 || text.head? != some '0') &&
    text.foldl (fun value digit => value * 10 + (digit.toNat - '0'.toNat)) 0 ≤ 255

def partsAt (border : Char) (text : List Char) : List (List Char) :=
  (Fragment.splitOn (· == border) 0 text).map (·.chars)

def isAddress4 (text : List Char) : Bool :=
  let parts := partsAt '.' text
  parts.length == 4 && parts.all isOctet

/-- The number of 16-bit groups in the parts of an address of the sixth version; only the very last
part may be an address of the fourth, which counts as two. -/
def groupCount? (mayEmbed : Bool) : List (List Char) → Option Nat
  | [] => some 0
  | [part] =>
      if mayEmbed && isAddress4 part then some 2
      else if !part.isEmpty && part.length ≤ 4 && part.all isHexDigit then some 1 else none
  | part :: rest =>
      if !part.isEmpty && part.length ≤ 4 && part.all isHexDigit then
        (groupCount? mayEmbed rest).map (· + 1)
      else
        none

/-- The groups of one side of an address; an empty side has none. -/
def sideCount? (mayEmbed : Bool) (side : List Char) : Option Nat :=
  if side.isEmpty then some 0 else groupCount? mayEmbed (partsAt ':' side)

/-- The text before and behind the first double colon. -/
def cutAtDoubleColon : List Char → Option (List Char × List Char)
  | ':' :: ':' :: rest => some ([], rest)
  | char :: rest => (cutAtDoubleColon rest).map fun (before, after) => (char :: before, after)
  | [] => none

def isAddress6 (text : List Char) : Bool :=
  match cutAtDoubleColon text with
  | none => sideCount? true text == some 8
  | some (before, after) =>
      match sideCount? false before, sideCount? true after with
      | some left, some right => left + right ≤ 7
      | _, _ => false

def isHostAndPort (text : List Char) : Bool :=
  match text with
  | '[' :: rest =>
      match cutAt (· == ']') rest with
      | (address, some port) =>
          isAddress6 address &&
            (port.isEmpty || (port.head? == some ':' && port.tail.all Char.isDigit))
      | _ => false
  | _ =>
      match cutAt (· == ':') text with
      | (host, port) =>
          isEscaped (fun char => isUnreserved char || isSubDelimiter char) host &&
            (port.getD []).all Char.isDigit

def isAuthority (text : List Char) : Bool :=
  match cutAt (· == '@') text with
  | (user, some host) =>
      isEscaped (fun char => isUnreserved char || isSubDelimiter char || char == ':') user &&
        isHostAndPort host
  | (host, none) => isHostAndPort host

def isHierarchy (text : List Char) : Bool :=
  match text with
  | '/' :: '/' :: rest =>
      isAuthority (rest.takeWhile (· != '/')) && isPath (rest.dropWhile (· != '/'))
  | _ => isPath text

def isScheme : List Char → Bool
  | [] => false
  | first :: rest =>
      first.isAlpha && rest.all fun char => char.isAlphanum || "+-.".toList.contains char

/-- Whether a string is a URI reference.  A colon in the first segment ends a scheme. -/
def isValid (uri : Uri) : Bool :=
  let (reference, fragment) := cutAt (· == '#') uri.toList
  let (hierarchy, query) := cutAt (· == '?') reference
  let tailsFit := isQuery (fragment.getD []) && isQuery (query.getD [])
  let firstSegment := hierarchy.takeWhile (· != '/')
  tailsFit &&
    match cutAt (· == ':') firstSegment with
    | (scheme, some _) => isScheme scheme && isHierarchy (hierarchy.drop (scheme.length + 1))
    | (_, none) => isHierarchy hierarchy

end Uri

end Gamebook
