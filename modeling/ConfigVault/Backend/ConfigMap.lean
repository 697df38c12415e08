import ConfigVault.Backend.Basic

/-!
# A backend over config maps

A cluster keeps config maps: named objects with data and labels.  Each collection is the data of the
config map of its name.  The config maps have to exist; writing reads one, exchanges its data and
replaces it, so that its labels stay.
-/

namespace ConfigVault

/-- A config map. -/
structure ConfigMap where
  data : Option Collection
  labels : KeyMap String
  deriving DecidableEq

/-- The calls of a server that keeps config maps in states `σ`. -/
structure ConfigMapServer (σ : Type) where
  read : String → σ → Except Fault ConfigMap × σ
  replace : String → ConfigMap → σ → Except Fault Unit × σ

/-- The config maps of a namespace. -/
abbrev Cluster := KeyMap ConfigMap

namespace Cluster

/-- The answer of a server for a config map that does not exist. -/
def notFound : Fault := .trouble (.refused 404 "Not Found")

/-- A server that answers reads with the last object that was put in place. -/
def server : ConfigMapServer Cluster where
  read name cluster :=
    match cluster.get? name with
    | some object => (.ok object, cluster)
    | none => (.error notFound, cluster)
  replace name object cluster := (.ok (), cluster.insert name object)

end Cluster

namespace ConfigMapServer

variable {σ τ : Type}

/-- The backend over a server.  Writing is a read and a replacement. -/
def backend (server : ConfigMapServer σ) : Backend σ τ where
  get collection _ s :=
    match server.read collection s with
    | (.ok object, s) => (.ok object.data, s)
    | (.error fault, s) => (.error fault, s)
  put collection data _ s :=
    match server.read collection s with
    | (.ok object, s) => server.replace collection { object with data := some data } s
    | (.error fault, s) => (.error fault, s)

end ConfigMapServer

/-- The incident of a call before the backend was connected. -/
def notConnected : Fault :=
  .incident (.configuration "ConfigMapBackend used before connect()" "BACKEND_NOT_CONNECTED" [])

/-- Where a client looks for its cluster. -/
structure ClusterAccess where
  /-- The account of the pod that the program runs in. -/
  inCluster : Bool
  /-- A file that names the cluster, for programs outside of it. -/
  accessFile : Option String
  deriving DecidableEq, Repr

/-- The incident of a client that finds no cluster. -/
def ClusterAccess.incident (access : ClusterAccess) (reason : String) : Incident :=
  .configuration ("Unable to load Kubernetes configuration: " ++ reason) "KUBERNETES_CONFIG_ERROR"
    [("in_cluster", .bool access.inCluster),
      ("kubeconfig", access.accessFile.elim .null .text)]

/-- Why a file gives no access to a cluster. -/
inductive AccessFault where
  /-- The file says too little, or not what it should. -/
  | faulty (reason : String)
  | escaped (escape : Escape)

/-- A client for clusters, whose states `κ` are those of a cluster that it has found. -/
structure ClusterClient (κ : Type) where
  find : ClusterAccess → Except AccessFault κ
  server : (namespaceName : String) → ConfigMapServer κ

/-- The backend of a client; the state is nothing until the cluster is found. -/
def ClusterClient.backend {κ τ : Type} (client : ClusterClient κ) (namespaceName : String)
    (access : ClusterAccess) : Backend (Option κ) τ where
  get collection now
    | none => (.error notConnected, none)
    | some s => ((client.server namespaceName).backend.get collection now s).map id some
  put collection data now
    | none => (.error notConnected, none)
    | some s => ((client.server namespaceName).backend.put collection data now s).map id some
  connect
    | some s => .ok (some s)
    | none =>
      match client.find access with
      | .ok s => .ok (some s)
      | .error (.faulty reason) => .error (.incident (access.incident reason))
      | .error (.escaped e) => .error (.escaped e)

end ConfigVault
