import ConfigVault.Backend.ConfigMap
import ConfigVault.Decimal.Whole
import ConfigVault.Instance.Settings.WorkingFolder
import ConfigVault.Instance.Yaml.Document
import ConfigVault.Text.Base64

/-!
# Files that name a cluster

A file that gives access to a cluster names a current context, and the context names a cluster and a
user of the file.  Several files are taken together: the lists of the later ones are added to those of
the first one, entries whose names are taken left out, and the last current context counts.  Then the
user has to be able to sign in, and the cluster to be reached: what the file says of tokens, passwords
and certificates is looked at in this order.  The first thing that is missing or of no use is the
reason why a file gives no access.
-/

namespace ConfigVault

open Host

namespace AccessFile

/-- The result of a look into a file. -/
abbrev Access (α : Type) := Except AccessFault α

/-- Stops for trouble that is not told in a sentence. -/
def stop {α : Type} (e : Escape) : Access α := .error (.escaped e)

/-- Stops for something that a file does not say. -/
def faulty {α : Type} (what : String) : Access α :=
  .error (.faulty ("Invalid kube-config file. " ++ what))

/-! ## Parts -/

/-- A value of a file with the words for its place and the path of the file. -/
structure Part where
  place : String
  value : Value
  path : String

namespace Part

/-- The part has a key: a mapping under that key, and lists and texts among what they hold. -/
def has (p : Part) (key : String) : Access Bool :=
  match p.value with
  | .map entries => .ok (entries.any fun e => e.1.text? = some key)
  | .list items => .ok (items.any fun v => v.text? = some key)
  | .set items => .ok (items.any fun v => v.text? = some key)
  | .text s => .ok (1 < (s.splitOn key).length)
  | _ => stop .mismatch

def get? (p : Part) (key : String) : Access (Option Part) := do
  if ← p.has key then
    match p.value with
    | .map _ =>
      match p.value.field? key with
      | some .null => return none
      | some v => return some ⟨p.place ++ "/" ++ key, v, p.path⟩
      | none => return none
    | _ => stop .mismatch
  else return none

def get (p : Part) (key : String) : Access Part := do
  match ← p.get? key with
  | some part => return part
  | none => faulty ("Expected key " ++ key ++ " in " ++ p.place)

/-- The part is a mapping or a list, in which more can be looked up. -/
def isNode (p : Part) : Bool := p.value.entries?.isSome || p.value.items?.isSome

def requireNode (p : Part) : Access Unit :=
  if p.isNode then .ok () else stop .missingPart

def requireText (p : Part) : Access String :=
  match p.value.text? with
  | some s => .ok s
  | none => stop .mismatch

/-- Two names are the same.  The undefined number is no name, not even its own. -/
def sameName (a b : Value) : Bool :=
  match a with
  | .float x => !x.isNaN && Value.sameKey a b
  | _ => Value.sameKey a b

def findNamed (what : String) (name : Value) : List Part → Access (Option Part)
  | [] => .ok none
  | p :: rest => do
    if !(← p.has "name") then
      faulty ("Expected all values in " ++ what ++ " list to have 'name' key")
    else if sameName (← p.get "name").value name then
      let _ ← findNamed what name rest
      return some p
    else findNamed what name rest

def named (what : String) (name : Value) (entries : List Part) : Access Part := do
  match ← findNamed what name entries with
  | some p => return p
  | none =>
    faulty ("Expected object with name " ++ name.sentence ++ " in " ++ what ++ " list")

end Part

/-! ## Files taken together -/

/-- What files say together: the first of them, the current context if one is named, and the lists. -/
structure Merged where
  path : String
  current : Option Value
  clusters : List Part
  contexts : List Part
  users : List Part

/-- The entries that a file lists under a key; a text is a list of characters, and a mapping one of its
keys. -/
def listed (document : Value) (key : String) : Access (List Value) :=
  let value := (document.field? key).getD .null
  if value.truthy then
    match value with
    | .list items => .ok items
    | .set items => .ok items
    | .map entries => .ok (entries.map Prod.fst)
    | .text s => .ok (s.toList.map fun c => .text c.toString)
    | .bytes data => .ok (data.map fun b => .int b.toNat)
    | _ => stop .mismatch
  else .ok []

def entryName (entry : Value) : Access Value :=
  match entry with
  | .map _ =>
    match entry.field? "name" with
    | some name => .ok name
    | none => stop .missingKey
  | _ => stop .mismatch

def isTaken (entry : Value) : List Part → Access Bool
  | [] => .ok false
  | p :: rest => do
    let present ← p.get "name"
    let name ← entryName entry
    if Part.sameName present.value name then return true else isTaken entry rest

def addEntries (path : String) (present : List Part) : List Value → Access (List Part)
  | [] => .ok present
  | entry :: rest => do
    if ← isTaken entry present then addEntries path present rest
    else addEntries path (present ++ [⟨path ++ "/" ++ entry.sentence, entry, path⟩]) rest

/-- Adds a file to those before it.  A file has to be a mapping. -/
def merge (before : Option Merged) (path : String) (document : Value) : Access Merged := do
  if document.entries?.isNone then
    stop (if before.isNone then .mismatch else .missingPart)
  let m := before.getD ⟨path, none, [], [], []⟩
  let clusters ← addEntries path m.clusters (← listed document "clusters")
  let contexts ← addEntries path m.contexts (← listed document "contexts")
  let users ← addEntries path m.users (← listed document "users")
  return ⟨m.path, (document.field? "current-context").or m.current, clusters, contexts, users⟩

/-- The folder of the user under which programs run. -/
def homeFolder : String := "/root"

/-- A path with the sign for the own folder at its front replaced. -/
def expandHome (path : String) : String :=
  let user := String.ofList ((path.toList.takeWhile (· ≠ '/')))
  if user = "~" || user = "~root" then
    homeFolder ++ String.ofList (path.toList.drop user.length)
  else path

def textOf : Configuration.PathEntry → Access String
  | .file content => .ok (String.ofList (Configuration.unifyBreaks content.toList))
  | .folder => stop .isFolder
  | .binary => stop .notText
  | .tooLong => stop .badPath

/-- Takes the files at paths together; those that are not there are left out.  In their documents `room`
nodes may lie within each other. -/
def collect (w : WorkingFolder) (room : Nat) (m : Option Merged) : List String → Access (Option Merged)
  | [] => .ok m
  | path :: rest => do
    let path := expandHome path
    match w.disk.find WorkingFolder.place path with
    | .error _ => collect w room m rest
    | .ok (_, node) =>
      match Yaml.read room (← textOf (WorkingFolder.entry node)) with
      | .ok .null => .error (.faulty ("Invalid kube-config. " ++ path ++ " file is empty"))
      | .ok document => collect w room (some (← merge m path document)) rest
      | .error (.malformed defect) => stop (.document defect)
      | .error (.escaped e) => stop e

def paths (text : String) : List String :=
  (text.split (· = ':')).toList.filterMap fun s =>
    if s.isEmpty then none else some s.toString

/-! ## Signing in -/

def findFile (w : WorkingFolder) (beside path : String) : Access Configuration.PathEntry :=
  match w.findBeside beside path with
  | .ok (_, node) => .ok (WorkingFolder.entry node)
  | .error .missing => stop (.noFile (WorkingFolder.fullPath beside path))
  | .error .notFolder => stop .notFolder
  | .error .tooLong => stop .badPath
  | .error .circle => stop .badPath

/-- Reads the number of seconds at which a token ends; no such number can be compared with the present
time. -/
def checkExpiry (p : Part) : Access Unit :=
  match p.value with
  | .text s =>
    if (Decimal.whole? 10 s.toList).isSome then stop .mismatch else stop .badValue
  | _ => stop .mismatch

/-- Signs in with a token that an identity provider has given; says whether there is one. -/
def providerToken (user : Part) : Access Bool := do
  if !(← user.has "auth-provider") then return false
  let provider ← user.get "auth-provider"
  if !(← provider.has "name") then return false
  let name := (← provider.get "name").value.text?
  if name = some "gcp" then
    if !(← provider.has "config") then stop .noAccount
    let settings ← provider.get "config"
    if !(← settings.has "access-token") then stop .noAccount
    let _ ← settings.get "access-token"
    return true
  else if name = some "azure" then
    if !(← provider.has "config") then return false
    let settings ← provider.get "config"
    if !(← settings.has "access-token") then return false
    if ← settings.has "expires-on" then checkExpiry (← settings.get "expires-on")
    let _ ← settings.get "access-token"
    return true
  else if name = some "oidc" then
    if !(← provider.has "config") then return false
    let settings ← provider.get "config"
    return hasThreeParts (← (← settings.get "id-token").requireText)
  else return false
where
  /-- The form of a token: three parts in characters for addresses. -/
  hasThreeParts (token : String) : Bool :=
    let reserved := token.toList.any fun c => c = '=' || c = '+' || c = '/'
    !reserved && (token.split (· = '.')).toList.length = 3

/-- Signs in with a token of the file or of a file that it names; says whether there is one. -/
def ownToken (w : WorkingFolder) (user : Part) : Access Bool := do
  user.requireNode
  if ← user.has "token" then return (← user.get "token").value.truthy
  else if ← user.has "tokenFile" then
    let path ← (← user.get "tokenFile").requireText
    let content ← textOf (← findFile w user.path path)
    return !content.isEmpty
  else return false

/-- Signs in with a name and a password, whose characters are of the first 256. -/
def password (user : Part) : Access Unit := do
  if (← user.has "username") && (← user.has "password") then
    let name ← (← user.get "username").requireText
    let word ← (← user.get "password").requireText
    if (name ++ word).toList.any fun c => 256 ≤ c.toNat then stop .notEncodable

def signIn (w : WorkingFolder) (user : Part) : Access Unit := do
  if user.value.truthy then
    if ← providerToken user then return ()
    if ← ownToken w user then return ()
    password user

/-! ## Reaching the cluster -/

/-- Looks at a certificate or key, given in base 64 or as a file. -/
def checkIdentity (w : WorkingFolder) (beside : String) (p : Part) (key : String) :
    Access Unit := do
  if !p.value.truthy then return ()
  if ← p.has (key ++ "-data") then
    let data := (← p.get (key ++ "-data")).value
    if data.truthy then
      match data with
      | .text s => decode s.toList
      | .bytes bytes => decode (bytes.map fun b => Char.ofNat b.toNat)
      | _ => stop .mismatch
  else if ← p.has key then
    let path ← (← p.get key).requireText
    match w.findBeside beside path with
    | .ok (_, .file _ _) => return ()
    | .ok (_, .program) => return ()
    | _ => .error (.faulty ("File does not exist: " ++ WorkingFolder.fullPath beside path))
where
  decode (cs : List Char) : Access Unit :=
    if (Text.decodeBase64? cs).isSome then .ok () else stop .badEncoding

def serverOf (cluster : Part) : Access String := do
  match (← cluster.get "server").value with
  | .text s => return s
  | .bytes _ => stop .mismatch
  | _ => stop .missingPart

/-- Looks at what is needed to reach a cluster; certificates are needed for safe connections only. -/
def checkCluster (w : WorkingFolder) (cluster : Part) (user : Option Part) : Access Unit := do
  if ← cluster.has "server" then
    if "https".isPrefixOf (← serverOf cluster) then
      checkIdentity w cluster.path cluster "certificate-authority"
      if let some user := user then
        checkIdentity w cluster.path user "client-certificate"
        checkIdentity w cluster.path user "client-key"
  for key in ["insecure-skip-tls-verify", "tls-server-name"] do
    if ← cluster.has key then
      let _ ← cluster.get key

/-! ## Access -/

/-- The user that a context names, if the files list users and one of them has this name. -/
def userOf (m : Merged) (context : Part) : Access (Option Part) := do
  context.requireNode
  match ← context.get? "user" with
  | none => return none
  | some name =>
    if !name.value.truthy || m.users.isEmpty then return none
    match ← Part.findNamed (m.path ++ "/users") name.value m.users with
    | none => return none
    | some user => return some (← user.get "user")

/-- Looks for the cluster of the current context, and for what is needed to use it. -/
def check (w : WorkingFolder) (m : Merged) : Access Unit := do
  let current ←
    match m.current with
    | some .null => faulty missing
    | some v => pure v
    | none => faulty missing
  let context ← (← Part.named (m.path ++ "/contexts") current m.contexts).get "context"
  let user ← userOf m context
  let name := (← context.get "cluster").value
  let cluster ← (← Part.named (m.path ++ "/clusters") name m.clusters).get "cluster"
  if let some user := user then signIn w user
  checkCluster w cluster user
where
  missing : String := "Expected key current-context in " ++ m.path

/-- Looks for the cluster that is named by the files at some paths.  The usual file is not there. -/
def find (w : WorkingFolder) (room : Nat) (path : Option String) : Access Unit := do
  match ← collect w room none (paths (path.getD "")) with
  | some m => check w m
  | none => faulty "No configuration found."

/-- A client for clusters that is told of them by files alone and can reach none of them. -/
def client (w : WorkingFolder) (room : Nat) : ClusterClient Unit where
  find access :=
    if access.inCluster then .error (.faulty "Service host/port is not set.")
    else find w room access.accessFile
  server _ :=
    { read := fun _ s => (.error unreachable, s)
      replace := fun _ _ s => (.error unreachable, s) }
where
  unreachable : Fault := .trouble (.disconnected "the cluster cannot be reached")

end AccessFile

end ConfigVault
