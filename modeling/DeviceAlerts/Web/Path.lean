import DeviceAlerts.Json.Reader
import DeviceAlerts.Text.Utf8
import DeviceAlerts.Web.Url

/-! Paths of requests and what they lead to. -/

namespace DeviceAlerts.Web

open DeviceAlerts.Text

/-! ### Percent encoding -/

/-- The bytes of a path, with every escape replaced by its byte. -/
def pathBytes : List Char → List UInt8
  | [] => []
  | '%' :: a :: b :: rest =>
    match Json.hexValue? a, Json.hexValue? b with
    | some x, some y => UInt8.ofNat (16 * x + y) :: pathBytes rest
    | _, _ => (String.singleton '%').toUTF8.toList ++ pathBytes (a :: b :: rest)
  | c :: rest => (String.singleton c).toUTF8.toList ++ pathBytes rest
  termination_by cs => cs.length

/-- A path without its escapes. -/
def decodePath (path : String) : String := String.ofList (decodeUtf8 (pathBytes path.toList))

/-! ### Targets -/

/-- What a request asks for: a path with its escapes and a query. -/
structure Target where
  path : List Char
  query : List Char

/-- The target that a text means: a path begins with one slash and has no dot segments. -/
def Target.read (s : String) : Except UrlFault Target := do
  let url ← Url.read s.toList
  let path := if url.isAbsolute then url.path else withoutDots url.rootedPath
  return ⟨if path.isEmpty then ['/'] else path, url.query.getD []⟩

/-- A part of a query without escapes, in which a plus is a blank. -/
def queryText (cs : List Char) : String :=
  decodePath (String.ofList (cs.map fun c => if c = '+' then ' ' else c))

/-- The names and values of a query. -/
def queryEntries (cs : List Char) : List (String × String) :=
  ((cs.splitOn '&').filter fun part => !part.isEmpty).map fun part =>
    let (name, value) := cutAt "=" part
    (queryText name, queryText (value.drop 1))

/-- A path as it is shown: line ends and tabs are dropped, and what looks like a query too. -/
def shownPath (path : String) : String :=
  String.ofList (cutAt "?#" (path.toList.filter fun c => c ≠ '\n' && c ≠ '\r' && c ≠ '\t')).1

/-! ### Routes -/

inductive Route
  | health
  | storeHealth
  | devices
  | device (id : String)
  | tags
  | tag (id : String)
  | messages
  | sendMessage
  | countByType
  | monthReport
  deriving DecidableEq

namespace Route

def ofSegments? : List String → Option Route
  | ["", ""] => some health
  | ["", "api", "health", "store"] => some storeHealth
  | ["", "api", "devices"] => some devices
  | ["", "api", "devices", id] => if id = "" then none else some (device id)
  | ["", "api", "tags"] => some tags
  | ["", "api", "tags", id] => if id = "" then none else some (tag id)
  | ["", "api", "messages"] => some messages
  | ["", "api", "messages", "send_msg"] => some sendMessage
  | ["", "api", "messages", "count_by_message_type"] => some countByType
  | ["", "api", "messages", "month_report"] => some monthReport
  | _ => none

/-- The parts of a path between its slashes. -/
def segments (path : List Char) : List String := (path.splitOn '/').map String.ofList

/-- The route of a path, after which one line end may follow. -/
def ofPath? (path : String) : Option Route :=
  (ofSegments? (segments path.toList)).orElse fun _ =>
    match path.toList.reverse with
    | '\n' :: rest => ofSegments? (segments rest.reverse)
    | _ => none

/-- Whether the path would be one of a route without the slashes at its end. -/
def isSlashed (path : String) : Bool :=
  let cs := path.toList.reverse
  let bare := (cs.dropWhile (· = '/')).reverse
  cs.head? = some '/' && path ≠ "/" && (ofPath? (String.ofList bare)).isSome

def methods : Route → List String
  | health | storeHealth | messages | countByType | monthReport => ["GET"]
  | devices | tags => ["GET", "POST"]
  | device _ | tag _ => ["GET", "PATCH", "DELETE"]
  | sendMessage => ["POST"]

end Route

end DeviceAlerts.Web
