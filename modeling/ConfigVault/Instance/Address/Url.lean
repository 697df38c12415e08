import ConfigVault.Decimal.Whole
import ConfigVault.Instance.Address.Host

/-!
# Addresses of pages

The parts of an address and its normal form: the scheme and the host in small letters, no port where
it is the usual one, no dots among the parts of the path, and escapes for characters that need them.
An address without a scheme or without a host is relative: it can be asked for, but only its path and
its query count.
-/

namespace ConfigVault.Address

open Text

/-- The parts of an address in their normal form. -/
structure Url where
  scheme : String
  userInfo : String
  host : String
  port : Option Int
  path : String
  query : Option String
  fragment : Option String
  deriving DecidableEq, Repr

/-- The greatest length of an address and of its parts. -/
def maxLength : Nat := 65536

/-- Splits a text at the first character of a class, which stays with the second part. -/
def cutAt (p : Char → Bool) (cs : List Char) : List Char × List Char :=
  cs.span fun c => !p c

def behind? (mark : Char) : List Char → Option (List Char)
  | [] => none
  | c :: rest => if c = mark then some rest else none

/-- The scheme in front of a text, and the text behind its colon; a colon without a scheme before it
is passed over too. -/
def takeScheme (cs : List Char) : List Char × List Char :=
  let (scheme, rest) := cutAt (fun c => !(c.isAlphanum || ['+', '.', '-'].contains c)) cs
  match rest with
  | ':' :: rest =>
    if scheme.isEmpty || (scheme.headD '0').isAlpha then (scheme, rest) else ([], cs)
  | _ => ([], cs)

/-- The parts of a path without those for the present and the enclosing folder; `kept` are the parts
before, the last one first. -/
def dropDots (kept : List (List Char)) : List (List Char) → List (List Char)
  | [] => kept.reverse
  | part :: rest =>
    if part = ['.'] then dropDots kept rest
    else if part = ['.', '.'] then
      dropDots (if kept.isEmpty || kept = [[]] then kept else kept.drop 1) rest
    else dropDots (part :: kept) rest

/-- A path without parts for the present and the enclosing folder. -/
def normalPath (path : List Char) : List Char :=
  let parts := splitAt '/' path
  if parts.contains ['.'] || parts.contains ['.', '.'] then
    List.intercalate ['/'] (dropDots [] parts)
  else path

/-- The usual port of a scheme, which has to be written in small letters for it. -/
def usualPort? (scheme : List Char) : Option Int :=
  let scheme := String.ofList scheme
  if scheme = "http" || scheme = "ws" then some 80
  else if scheme = "https" || scheme = "wss" then some 443
  else if scheme = "ftp" then some 21
  else none

/-- The number of a port: a whole number with a sign and blanks around it, and with single underscores
between its digits. -/
def portNumber? (cs : List Char) : Option Int := do
  let (negative, digits) := Decimal.takeSign (trim isBlankOrSeparator cs)
  let digits ← Decimal.dropUnderscores? digits
  let n ← Decimal.whole? 10 digits
  if (digits.head?.bind decimalDigit?).isSome then some (if negative then -n else n) else none

/-- The part for the user, the host and the text of the port.  The user is told off by the last at
sign; a host that begins with a bracket goes on to the last closing one, and the colon in front of a
port can be left out behind it. -/
def takeAuthority (cs : List Char) : List Char × List Char × List Char :=
  let behind := (cs.reverse.takeWhile (· ≠ '@')).reverse
  let user := cs.take (cs.length - behind.length - 1)
  let bracketed := behind.take
    (behind.length - (behind.reverse.takeWhile (· ≠ ']')).length)
  let (host, rest) :=
    if behind.head? = some '[' && bracketed ≠ [] then (bracketed, behind.drop bracketed.length)
    else cutAt (· = ':') behind
  (user, host, (behind? ':' rest).getD rest)

def pathFits (schemed authorized : Bool) (path : List Char) : Bool :=
  if authorized then path.isEmpty || path.head? = some '/'
  else schemed || !(path.head? = some ':' || ['/', '/'].isPrefixOf path)

def isControl (c : Char) : Bool := c.toNat < 32 || c.toNat = 127

/-- The parts of an address in their normal form; none if the text is no address. -/
def Url.ofText? (text : String) : Option Url := do
  let cs := text.toList
  guard (cs.length ≤ maxLength && !cs.any isControl)
  let (scheme, cs) := takeScheme cs
  let (authority, cs) :=
    match cs with
    | '/' :: '/' :: rest => cutAt (fun c => ['/', '?', '#'].contains c) rest
    | cs => ([], cs)
  let (path, cs) := cutAt (fun c => c = '?' || c = '#') cs
  let (query, cs) : Option (List Char) × List Char :=
    match behind? '?' cs with
    | some rest => let (query, rest) := cutAt (· = '#') rest; (some query, rest)
    | none => (none, cs)
  let fragment := behind? '#' cs
  let (user, host, port) := takeAuthority authority
  let host ← if host.isEmpty then some [] else normalHost? host
  let port ← if port.isEmpty then some none else (portNumber? port).map some
  let port := if port = usualPort? scheme then none else port
  let authorized := !user.isEmpty || !host.isEmpty || port.isSome
  guard (pathFits (!scheme.isEmpty) authorized path)
  let path := if scheme.isEmpty && !authorized then path else normalPath path
  let part (safe : Char → Bool) (cs : List Char) : String := String.ofList (encode safe cs)
  return {
    scheme := String.ofList (scheme.map Char.toLower)
    userInfo := part isUserChar user
    host := String.ofList host
    port
    path := part isPathChar path
    query := query.map (part isQueryChar)
    fragment := fragment.map (part isFragmentChar) }

namespace Url

def isAbsolute (u : Url) : Bool := !u.scheme.isEmpty && !u.host.isEmpty

/-- The host with the port, if it is not the usual one; a number with colons is put in brackets. -/
def hostText (u : Url) : String :=
  (if u.host.toList.contains ':' then "[" ++ u.host ++ "]" else u.host) ++
    (u.port.elim "" fun port => ":" ++ toString port)

def text (u : Url) : String :=
  let authority := (if u.userInfo.isEmpty then "" else u.userInfo ++ "@") ++ u.hostText
  (if u.scheme.isEmpty then "" else u.scheme ++ ":") ++
    (if authority.isEmpty then "" else "//" ++ authority) ++ u.path ++
    (u.query.elim "" ("?" ++ ·)) ++ (u.fragment.elim "" ("#" ++ ·))

/-- What is asked for under an address: of a relative one the path from the root, with the query. -/
def target? (u : Url) : Option Url :=
  if u.isAbsolute then some u
  else
    let path := '/' :: u.path.toList.dropWhile (· = '/')
    let fits (cs : List Char) : Bool := cs.length ≤ maxLength
    if fits path && fits ((u.query.map String.toList).getD []) then
      some ⟨"", "", "", none, String.ofList path, u.query, none⟩
    else none

/-- The name and the password in the part for the user, unless both are empty. -/
def credentials? (u : Url) : Option (String × String) :=
  let (name, password) := cutAt (· = ':') u.userInfo.toList
  let name := decode name
  let password := decode (password.drop 1)
  if name.isEmpty && password.isEmpty then none else some (name, password)

end Url

end ConfigVault.Address
