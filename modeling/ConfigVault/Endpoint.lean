import ConfigVault.Retry

/-!
# Endpoints

After a change of its configuration a service reloads or restarts.  Waiting for its endpoint makes one
and the same call of a client by a schedule until the answer has the expected status.  The client is
opened once for all calls, and may keep something of the answers.
-/

namespace ConfigVault

/-- A call of a client.  What callers hand over is passed on as it is. -/
structure HttpCall where
  method : Value
  url : String
  headers : List (String × Value)
  content : Option String

/-- How a client is opened. -/
structure ClientOptions where
  /-- The seconds after which a call is given up. -/
  timeout : Float
  /-- Whether certificates are checked. -/
  verify : Bool
  /-- A name and a password. -/
  credentials : Option (String × String)

/-- What comes back for a request. -/
structure Response where
  status : Int
  headers : List (String × String)
  deriving DecidableEq, Repr

def Response.cookies (r : Response) : List String :=
  (r.headers.filter fun h => h.1.toLower = "set-cookie").map Prod.snd

/-- A client: it makes requests `ρ` of calls, and what it keeps between them is its state `κ`. -/
structure HttpClient (κ ρ ε : Type) where
  opened : ClientOptions → κ
  /-- The request that goes out for a call. -/
  build : HttpCall → κ → Except ε ρ
  /-- Sends a request. -/
  send : ρ → κ → Except ε Response × κ

/-- A client in use, with the calls that were made and the requests that went out for them. -/
structure HttpExchange (κ ρ : Type) where
  client : κ
  calls : List HttpCall
  sent : List ρ

/-- What is waited for. -/
structure Probe where
  url : String
  method : Value
  /-- A host to ask for in place of that of the address; an empty one stands for none. -/
  host : Value
  headers : List (String × Value)
  payload : Option String
  options : ClientOptions
  /-- The status that is waited for, as a value. -/
  expectedStatus : Value

def HttpClient.request {κ ρ ε : Type} (client : HttpClient κ ρ ε) (call : HttpCall)
    (x : HttpExchange κ ρ) : Except ε Response × HttpExchange κ ρ :=
  let x := { x with calls := x.calls ++ [call] }
  match client.build call x.client with
  | .error error => (.error error, x)
  | .ok request =>
    let (answer, state) := client.send request x.client
    (answer, { x with client := state, sent := x.sent ++ [request] })

namespace Probe

/-- The schedule for endpoints that are given no other: ten attempts, from three seconds on. -/
def schedule : Backoff Float where
  duration := 3.0
  factor := 2.0
  jitter := 0.0
  steps := 10
  cap := none

/-- Sets a header by the exact spelling of its name. -/
def setHeader {α : Type} (name : String) (value : α) : List (String × α) → List (String × α)
  | [] => [(name, value)]
  | h :: rest => if h.1 = name then (name, value) :: rest else h :: setHeader name value rest

/-- The headers that the caller asks for. -/
def askedHeaders (p : Probe) : List (String × Value) :=
  if p.host.truthy then setHeader "Host" p.host p.headers else p.headers

/-- The call that every attempt makes. -/
def call (p : Probe) : HttpCall := ⟨p.method, p.url, p.askedHeaders, p.payload⟩

variable {κ ρ ε : Type} (client : HttpClient κ ρ ε)

/-- Calls once: the answer has the expected status. -/
def check (p : Probe) : Condition (HttpExchange κ ρ) ε := fun x =>
  let (answer, x) := client.request p.call x
  (answer.map fun response =>
    .bool (Value.sameKey (.int response.status) p.expectedStatus), x)

def start (p : Probe) : HttpExchange κ ρ := ⟨client.opened p.options, [], []⟩

/-- Waits for an endpoint. -/
def await {τ : Type} [TimeScale τ] [Mul τ] (p : Probe) (s : Backoff τ) (rolls : Nat → τ) :
    RetryRun ε τ × HttpExchange κ ρ :=
  retry s rolls (p.check client) (p.start client)

end Probe

end ConfigVault
