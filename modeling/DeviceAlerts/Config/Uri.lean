/-! Addresses of databases. A password in such an address is masked before the address is shown:
it stands between the colon after the user's name and the next at sign. -/

namespace DeviceAlerts.Config

def schemes : List (List Char) := ["mongodb://".toList, "mongodb+srv://".toList]

/-- The scheme that a text starts with. -/
def scheme? (cs : List Char) : Option (List Char) := schemes.find? fun s => s.isPrefixOf cs

def isUserCharacter (c : Char) : Bool := c ≠ ':' && c ≠ '@' && c ≠ '/'

def isPasswordCharacter (c : Char) : Bool := c ≠ '@' && c ≠ '/'

/-- An address at the head of a text that names a user and a password. -/
structure Credentials where
  scheme : List Char
  user : List Char
  password : List Char

/-- The number of characters up to the at sign, which is counted too. -/
def Credentials.length (c : Credentials) : Nat :=
  c.scheme.length + c.user.length + c.password.length + 2

def Credentials.masked (c : Credentials) : List Char :=
  c.scheme ++ c.user ++ [':', '*', '*', '*', '@']

def credentials? (cs : List Char) : Option Credentials := do
  let scheme ← scheme? cs
  let rest := cs.drop scheme.length
  let user := rest.takeWhile isUserCharacter
  match rest.dropWhile isUserCharacter with
  | ':' :: rest =>
    let password := rest.takeWhile isPasswordCharacter
    let closed := (rest.dropWhile isPasswordCharacter).head? = some '@'
    if user.isEmpty || password.isEmpty || !closed then none else some ⟨scheme, user, password⟩
  | _ => none

/-- The text after its first `skip` characters with all passwords masked. -/
def maskFrom : Nat → List Char → List Char
  | _, [] => []
  | skip + 1, _ :: cs => maskFrom skip cs
  | 0, c :: cs =>
    match credentials? (c :: cs) with
    | some found => found.masked ++ maskFrom (found.length - 1) cs
    | none => c :: maskFrom 0 cs

/-- The text with the passwords of all addresses in it masked. -/
def maskPasswords (s : String) : String := String.ofList (maskFrom 0 s.toList)

end DeviceAlerts.Config
