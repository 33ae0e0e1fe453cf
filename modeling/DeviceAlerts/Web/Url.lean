import DeviceAlerts.Web.Host

/-! Addresses on the web in their normal form: the host in small letters and in ASCII, no port that
goes without saying, no dot segments in the path, and escapes for characters that may not stand for
themselves. -/

namespace DeviceAlerts.Web

open DeviceAlerts.Number DeviceAlerts.Text

/-- Why a text is no address. -/
inductive UrlFault
  | tooLong
  | control (c : Char) (position : Nat)
  | host (fault : HostFault) (given : String)
  | port (given : String)
  /-- A path without a host begins with a mark that would make it something else. -/
  | opening (mark : String)
  deriving DecidableEq

def HostFault.kind : HostFault → String
  | octets => "IPv4 address"
  | groups => "IPv6 address"
  | name => "IDNA hostname"

def UrlFault.message : UrlFault → String
  | tooLong => "URL too long"
  | control c position => "Invalid non-printable ASCII character in URL, " ++
      quote (String.singleton c) ++ " at position " ++ toString position ++ "."
  | host fault given => "Invalid " ++ fault.kind ++ ": " ++ quote given
  | port given => "Invalid port: " ++ quote given
  | opening mark => "Relative URLs cannot have a path starting with " ++ quote mark

/-! ### Paths -/

/-- Takes the dot segments out of a path; the root has no parent. -/
def resolveDots (done : List (List Char)) : List (List Char) → List (List Char)
  | [] => done
  | segment :: rest =>
    if segment = ['.'] then resolveDots done rest
    else if segment = ['.', '.'] then
      resolveDots (if done = [[]] then done else done.dropLast) rest
    else resolveDots (done ++ [segment]) rest

def splitAtSlashes (cs : List Char) : List (List Char) :=
  ((String.ofList cs).splitOn "/").map String.toList

def joinBySlashes (segments : List (List Char)) : List Char :=
  ['/'].intercalate segments

/-- A path without dot segments. -/
def withoutDots (cs : List Char) : List Char :=
  joinBySlashes (resolveDots [] (splitAtSlashes cs))

/-! ### Parts of an address -/

/-- Parts a text before the first of some characters. -/
def cutAt (marks : String) (cs : List Char) : List Char × List Char :=
  (cs.takeWhile fun c => !marks.toList.contains c, cs.dropWhile fun c => !marks.toList.contains c)

/-- The scheme before a colon, which may be empty, and what follows. -/
def cutScheme (cs : List Char) : List Char × List Char :=
  let scheme := if cs.head?.any Char.isAlpha then
      cs.takeWhile fun c => c.isAlphanum || c = '+' || c = '.' || c = '-'
    else []
  match cs.drop scheme.length with
  | ':' :: rest => (scheme, rest)
  | _ => ([], cs)

/-- The user in front of an at sign, with the sign, and what follows. -/
def cutUser (cs : List Char) : List Char × List Char :=
  match cutAt "@" cs with
  | (_, []) => ([], cs)
  | (user, _ :: rest) => (if user.isEmpty then [] else escapeAll isSafeInUser user ++ ['@'], rest)

/-- A host, which may stand in brackets, and what follows the colon after it. -/
def cutHost (cs : List Char) : List Char × List Char :=
  let bracketed := (cs.reverse.dropWhile (· ≠ ']')).reverse
  let (host, rest) := if cs.head? = some '[' && !bracketed.isEmpty then
      (bracketed, cs.drop bracketed.length)
    else cutAt ":@" cs
  (host, if rest.head? = some ':' then rest.drop 1 else rest)

/-- The port that is meant where none is given. -/
def usualPort? (scheme : String) : Option Int :=
  match scheme with
  | "ftp" => some 21
  | "http" | "ws" => some 80
  | "https" | "wss" => some 443
  | _ => none

/-- The port with its colon, unless it is the usual one. -/
def normalPort (scheme cs : List Char) : Except UrlFault (List Char) :=
  if cs.isEmpty then .ok []
  else
    match readInteger (String.ofList cs) with
    | .error _ => .error (.port (String.ofList cs))
    | .ok port =>
      .ok (if usualPort? (String.ofList scheme) = some port then [] else
        ':' :: (toString port).toList)

/-! ### Addresses -/

/-- An address in its normal form; it has an authority when it says where something is, and a host
when it names the place. -/
structure Url where
  scheme : List Char
  authority : List Char
  hasHost : Bool
  path : List Char
  query : Option (List Char)
  fragment : Option (List Char)
  deriving DecidableEq

namespace Url

def isControl (c : Char) : Bool := c.toNat < 0x20 || c.toNat == 0x7F

def lengthLimit : Nat := 65536

/-- What follows the mark at the beginning of a text, with escapes. -/
def behindMark (isSafe : Char → Bool) (cs : List Char) : Option (List Char) :=
  if cs.isEmpty then none else some (escapeAll isSafe (cs.drop 1))

/-- Without a scheme and an authority, a path must not look as if it had one. -/
def readPath (isPlaced : Bool) (path : List Char) : Except UrlFault (List Char) :=
  if isPlaced then .ok (escapeAll isSafeInPath (withoutDots path))
  else if path.take 2 = ['/', '/'] then .error (.opening "//")
  else if path.head? = some ':' then .error (.opening ":")
  else .ok (escapeAll isSafeInPath path)

/-- Reads an address that may leave out where something is. -/
def read (cs : List Char) : Except UrlFault Url := do
  if lengthLimit < cs.length then throw .tooLong
  if let some position := cs.findIdx? isControl then
    throw (.control (cs.getD position ' ') position)
  let (scheme, rest) := cutScheme cs
  let (place, rest) := if rest.take 2 = ['/', '/'] then cutAt "/?#" (rest.drop 2) else ([], rest)
  let (front, fragment) := cutAt "#" rest
  let (path, query) := cutAt "?" front
  let (user, place) := cutUser place
  let (given, port) := cutHost place
  let host ← (normalHost given).mapError fun fault => .host fault (String.ofList given)
  let authority := user ++ host ++ (← normalPort scheme port)
  return {
    scheme := scheme.map Char.toLower
    authority
    hasHost := !host.isEmpty
    path := ← readPath (!scheme.isEmpty || !authority.isEmpty) path
    query := behindMark isSafeInQuery query
    fragment := behindMark isSafeInFragment fragment }

/-- Whether an address says where something is, and how to get there. -/
def isAbsolute (u : Url) : Bool := !u.scheme.isEmpty && u.hasHost

/-- The path from the root, without dot segments. -/
def rootedPath (u : Url) : List Char :=
  if u.isAbsolute then u.path else '/' :: u.path.dropWhile (· = '/')

def queryText (u : Url) : List Char := u.query.elim [] ('?' :: ·)

/-- The address as it is written; one that is not absolute begins at the root. -/
def text (u : Url) : String :=
  String.ofList <|
    if u.isAbsolute then
      u.scheme ++ [':', '/', '/'] ++ u.authority ++ u.path ++ u.queryText ++
        u.fragment.elim [] ('#' :: ·)
    else u.rootedPath ++ u.queryText

end Url

end DeviceAlerts.Web
