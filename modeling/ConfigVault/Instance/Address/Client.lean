import ConfigVault.Endpoint
import ConfigVault.Instance.Address.Url
import ConfigVault.Text.Base64

/-!
# A client

A client that keeps the cookies of its answers, over a connection whose answers are given beforehand.
-/

namespace ConfigVault.Address

open Text Probe

/-- A request as it is sent, with the names of its headers in small letters. -/
structure Request where
  method : String
  url : String
  headers : List (String × String)
  body : String
  deriving DecidableEq, Repr

/-- Why a call fails. -/
inductive ClientError where
  | unreachable (message : String)
  | badAddress
  /-- A header holds characters that cannot be sent. -/
  | unfitHeader
  | wrongHeader
  | wrongMethod
  /-- The address does not tell where to go, so that the answer belongs to no place. -/
  | relativeAddress
  deriving DecidableEq, Repr

/-- What a client keeps: the credentials that it was opened with, its cookies, and the number of the
next answer. -/
structure ClientState where
  credentials : Option (String × String)
  cookies : List (String × String)
  position : Nat

/-- The values of the headers of a name in any spelling, joined; none if there is none. -/
def header? (name : String) (headers : List (String × String)) : Option String :=
  let values := (headers.filter fun h => h.1.toLower = name).map Prod.snd
  if values.isEmpty then none else some (String.intercalate ", " values)

/-- Headers as they are sent: names and values are texts in ASCII. -/
def sentHeaders : List (String × Value) → Except ClientError (List (String × String))
  | [] => .ok []
  | (name, value) :: rest => do
    let inAscii (s : String) : Bool := s.toList.all fun c => c.toNat < 128
    if !inAscii name then throw .unfitHeader
    match value with
    | .text s =>
      if !inAscii s then throw .unfitHeader
      return (name, s) :: (← sentHeaders rest)
    | _ => throw .wrongHeader

/-- The header that gives a name and a password. -/
def authorization (credentials : String × String) : String :=
  "Basic " ++
    String.ofList (encodeBase64 (utf8Bytes (credentials.1 ++ ":" ++ credentials.2)))

/-- The address that a text asks for. -/
def target? (url : String) : Option Url := (Url.ofText? url).bind Url.target?

/-- The name and the value of a cookie, without what else is said of it. -/
def cookiePair (cookie : String) : String × String :=
  let pair := cookie.toList.takeWhile (· ≠ ';')
  let name := pair.takeWhile (· ≠ '=')
  (String.ofList name, String.ofList (pair.drop (name.length + 1)))

/-- Cookies after those that an answer sets; one of the same name is replaced. -/
def keepCookies (set : List String) (cookies : List (String × String)) : List (String × String) :=
  set.foldl (fun kept cookie => setHeader (cookiePair cookie).1 (cookiePair cookie).2 kept) cookies

def build (call : HttpCall) (state : ClientState) : Except ClientError Request := do
  let some url := target? call.url | throw .badAddress
  let asked ← sentHeaders call.headers
  let some method := call.method.text? | throw .wrongMethod
  let names := (asked.map fun h => h.1.toLower).eraseDups
  let own := names.filterMap fun name => (header? name asked).map (name, ·)
  let fixed (name : String) (value : Option String) (headers : List (String × String)) :=
    match value with
    | some value => setHeader name value headers
    | none => headers
  let host := if names.contains "host" || url.host.isEmpty then none else some url.hostText
  if ((host.map String.toList).getD []).any fun c => 127 < c.toNat then throw .unfitHeader
  let cookie :=
    if state.cookies.isEmpty then none
    else some (String.intercalate "; " (state.cookies.map fun c => c.1 ++ "=" ++ c.2))
  let headers := fixed "cookie" cookie
    (fixed "authorization" ((state.credentials.or url.credentials?).map authorization)
      (fixed "host" host own))
  return ⟨upper method, url.text, headers, call.content.getD ""⟩

def client (answers : Nat → Except String Response) :
    HttpClient ClientState Request ClientError where
  opened options := ⟨options.credentials, [], 0⟩
  build := build
  send request state :=
    let next := { state with position := state.position + 1 }
    match answers state.position with
    | .error message => (.error (.unreachable message), next)
    | .ok response =>
      if ((target? request.url).map Url.isAbsolute).getD false then
        (.ok response, { next with cookies := keepCookies response.cookies state.cookies })
      else (.error .relativeAddress, next)

end ConfigVault.Address
