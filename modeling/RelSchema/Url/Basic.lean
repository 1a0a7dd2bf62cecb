import RelSchema.Failure
import RelSchema.Keyed
import RelSchema.Number.Integer
import RelSchema.Text.Bytes

/-!
Percent-encoding: the bytes of a text as pairs of hexadecimal digits behind percent signs.
-/
namespace RelSchema.Percent

def isUnreserved (c : Char) : Bool :=
  c.isAlphanum || c == '_' || c == '.' || c == '-' || c == '~'

/-- The digit for a number below sixteen, in upper case. -/
def hexDigit (n : Nat) : Char :=
  (Nat.digitChar n).toUpper

def encodeByte (byte : Nat) : List Char :=
  ['%', hexDigit (byte / 16), hexDigit (byte % 16)]

def encodeChar (c : Char) : List Char :=
  if isUnreserved c then [c] else (Text.utf8 c).flatMap encodeByte

def encode (s : List Char) : List Char :=
  s.flatMap encodeChar

def byte? (high low : Char) : Option Nat := do
  return (← Number.hexValue? high) * 16 + (← Number.hexValue? low)

/-- The bytes of a text; a percent sign without two digits behind it stands for itself. -/
def bytes : List Char → List Nat
  | [] => []
  | '%' :: high :: low :: rest =>
    match byte? high low with
    | some byte => byte :: bytes rest
    | none => Text.utf8 '%' ++ bytes (high :: low :: rest)
  | c :: rest => Text.utf8 c ++ bytes rest

def decode (s : List Char) : List Char :=
  Text.ofUtf8 (bytes s)

end RelSchema.Percent

/-!
The addresses of databases. Each part is read as far as its characters go; what then follows the
last part is no part of the address.
-/
namespace RelSchema

structure Url where
  /-- The family of the database, and perhaps a plus sign and its driver. -/
  scheme : String
  user : Option String := none
  password : Option String := none
  host : Option String := none
  port : Option Int := none
  database : Option String := none
  deriving DecidableEq, Repr

namespace Url

def decoded (s : List Char) : String :=
  .ofList (Percent.decode s)

/-- The scheme and the text behind its two slashes. -/
def cutScheme? (s : List Char) : Option (List Char × List Char) :=
  let isSchemeChar (c : Char) : Bool := Text.isWordChar c || c == '+'
  let scheme := s.takeWhile isSchemeChar
  if scheme.isEmpty then none
  else (Text.dropPrefix? [':', '/', '/'] (s.dropWhile isSchemeChar)).map (scheme, ·)

/-- The user and the password in front of an at sign, and the text behind it. A password may hold
any other character, and a user name without one further at signs. -/
def cutUser (s : List Char) : Option (List Char) × Option (List Char) × List Char :=
  let isUserChar (c : Char) : Bool := c != ':' && c != '/'
  let user := s.takeWhile isUserChar
  let rest := s.dropWhile isUserChar
  let password? := match rest with
    | ':' :: rest => Text.cutAt? '@' rest
    | _ => none
  match password? with
  | some (password, rest) => (some user, some password, rest)
  | none =>
    match Text.cutAtLast? '@' user with
    | some (user, host) => (some user, none, host ++ rest)
    | none => (none, none, s)

/-- The text between square brackets at the start, up to the last closing one of a part. -/
def bracketed? (s : List Char) : Option (List Char × List Char) :=
  let isPartChar (c : Char) : Bool := c != '/' && c != '?'
  match s with
  | '[' :: inner =>
    match Text.cutAtLast? ']' (inner.takeWhile isPartChar) with
    | some ([], _) | none => none
    | some (host, tail) => some (host, tail ++ inner.dropWhile isPartChar)
  | _ => none

def cutHost (s : List Char) : Option (List Char) × List Char :=
  match bracketed? s with
  | some (host, rest) => (some host, rest)
  | none =>
    let isHostChar (c : Char) : Bool := c != '/' && c != ':' && c != '?'
    let host := s.takeWhile isHostChar
    (if host.isEmpty then none else some host, s.dropWhile isHostChar)

def cutPort (s : List Char) : Option (List Char) × List Char :=
  let isPartChar (c : Char) : Bool := c != '/' && c != '?'
  match s with
  | ':' :: rest => (some (rest.takeWhile isPartChar), rest.dropWhile isPartChar)
  | _ => (none, s)

def cutDatabase? (s : List Char) : Option (List Char) :=
  match s with
  | '/' :: rest => some (rest.takeWhile (· != '?'))
  | _ => none

def readPort (s : List Char) : Except Failure Int :=
  (Number.readInt 10 s).mapError .integer

def read (text : String) : Except Failure Url :=
  match cutScheme? text.toList with
  | none => .error (.unreadableUrl text)
  | some (scheme, rest) => do
    let (user, password, rest) := cutUser rest
    let (host, rest) := cutHost rest
    let (port, rest) := cutPort rest
    return {
      scheme := .ofList scheme
      user := user.map decoded
      password := password.map decoded
      host := host.map String.ofList
      port := ← port.mapM readPort
      database := (cutDatabase? rest).map decoded }

def usualDrivers : Keyed String := [
  ("postgres", "postgresql+psycopg"), ("postgresql", "postgresql+psycopg"),
  ("mysql", "mysql+pymysql"), ("mariadb", "mariadb+pymysql")]

def withDriver (url : Url) : Url :=
  { url with scheme := (usualDrivers.get? url.scheme).getD url.scheme }

/-- The address that a text spells, with a driver. -/
def normal (text : String) : Except Failure Url :=
  (read text).map withDriver

/-- The family of the database. -/
def backend (url : Url) : String :=
  .ofList (url.scheme.toList.takeWhile (· != '+'))

end Url

end RelSchema
