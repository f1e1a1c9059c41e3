import CodeGraph.Graph.Address
import CodeGraph.Graph.Response
import CodeGraph.Graph.Statement

/-! # The graph in a database

A database that is reached over HTTP. Each batch is one request and one transaction. A request that
is lost is sent again, after a pause that doubles each time; whatever answer comes back ends the
attempts. How a request travels is left to a transport, and so is which web addresses there are. -/

namespace CodeGraph

/-- How to reach a database. -/
structure RemoteConfig where
  uri : String := s!"http://localhost:{Address.defaultPort}"
  username : String := "neo4j"
  password : String := ""
  database : String := "neo4j"
  /-- How often a lost request is sent again. -/
  maxRetries : Nat := 2
  timeoutSeconds : Nat := 30
  deriving BEq, DecidableEq, Repr, Inhabited

/-- A request. -/
structure RemoteRequest where
  url : String
  username : String
  password : String
  statements : List Statement
  deriving BEq, DecidableEq, Repr, Inhabited

/-- The text that a request carries. -/
def RemoteRequest.body (r : RemoteRequest) : Json :=
  .object [("statements", .array (r.statements.map Statement.toJson))]

/-- Why no answer comes back. -/
inductive Loss where
  | noConnection
  | timedOut
  /-- The connection breaks. -/
  | broken
  deriving BEq, DecidableEq, Repr, Inhabited

/-- What becomes of a request. -/
inductive Exchange where
  /-- No answer comes back. -/
  | lost (cause : Loss)
  /-- An answer begins to come back and breaks off, after a time perhaps that is too long. -/
  | cutOff (status : Nat) (timedOut : Bool)
  | answered (status : Nat) (body : String)
  deriving BEq, DecidableEq, Repr, Inhabited

/-- What carries requests; its state is that of the other side. -/
abbrev Transport (τ : Type) := RemoteRequest → τ → Exchange × τ

/-- Where nobody listens, every request is lost. -/
def Transport.unreachable : Transport Unit := fun _ s => (.lost .noConnection, s)

/-- The name of a registered status of an answer. -/
def statusReason? : Nat → Option String
  | 100 => some "Continue"
  | 101 => some "Switching Protocols"
  | 102 => some "Processing"
  | 103 => some "Early Hints"
  | 200 => some "OK"
  | 201 => some "Created"
  | 202 => some "Accepted"
  | 203 => some "Non Authoritative Information"
  | 204 => some "No Content"
  | 205 => some "Reset Content"
  | 206 => some "Partial Content"
  | 207 => some "Multi-Status"
  | 208 => some "Already Reported"
  | 226 => some "IM Used"
  | 300 => some "Multiple Choices"
  | 301 => some "Moved Permanently"
  | 302 => some "Found"
  | 303 => some "See Other"
  | 304 => some "Not Modified"
  | 305 => some "Use Proxy"
  | 307 => some "Temporary Redirect"
  | 308 => some "Permanent Redirect"
  | 400 => some "Bad Request"
  | 401 => some "Unauthorized"
  | 402 => some "Payment Required"
  | 403 => some "Forbidden"
  | 404 => some "Not Found"
  | 405 => some "Method Not Allowed"
  | 406 => some "Not Acceptable"
  | 407 => some "Proxy Authentication Required"
  | 408 => some "Request Timeout"
  | 409 => some "Conflict"
  | 410 => some "Gone"
  | 411 => some "Length Required"
  | 412 => some "Precondition Failed"
  | 413 => some "Payload Too Large"
  | 414 => some "URI Too Long"
  | 415 => some "Unsupported Media Type"
  | 416 => some "Range Not Satisfiable"
  | 417 => some "Expectation Failed"
  | 418 => some "I'm a teapot"
  | 421 => some "Misdirected Request"
  | 422 => some "Unprocessable Entity"
  | 423 => some "Locked"
  | 424 => some "Failed Dependency"
  | 425 => some "Too Early"
  | 426 => some "Upgrade Required"
  | 428 => some "Precondition Required"
  | 429 => some "Too Many Requests"
  | 431 => some "Request Header Fields Too Large"
  | 451 => some "Unavailable For Legal Reasons"
  | 500 => some "Internal Server Error"
  | 501 => some "Not Implemented"
  | 502 => some "Bad Gateway"
  | 503 => some "Service Unavailable"
  | 504 => some "Gateway Timeout"
  | 505 => some "HTTP Version Not Supported"
  | 506 => some "Variant Also Negotiates"
  | 507 => some "Insufficient Storage"
  | 508 => some "Loop Detected"
  | 510 => some "Not Extended"
  | 511 => some "Network Authentication Required"
  | _ => none

/-- A status in words. -/
def statusText (status : Nat) : String :=
  toString status ++ " " ++ (statusReason? status).getD "<unknown status code>"

namespace RemoteConfig

/-- The address to which batches are sent. -/
def commitUrl (c : RemoteConfig) : Except GraphError String := do
  let base ← Address.baseUrl c.uri
  if (Text.trim c.database).isEmpty then .error (.invalidConfig "empty database name")
  else .ok (base ++ "/db/" ++ c.database ++ "/tx/commit")

end RemoteConfig

/-- A database that can be sent requests. -/
structure Remote where
  config : RemoteConfig
  commitUrl : String
  /-- The web address that `commitUrl` is taken for, to which requests are sent; `none` if it is
  taken for none. -/
  address : Option String
  deriving Repr, Inhabited

namespace Remote

/-- The database of a configuration. What a text is taken for as a web address is up to
`address`. -/
def ofConfig (address : String → Option String) (config : RemoteConfig) :
    Except GraphError Remote :=
  (config.commitUrl).map fun commitUrl => { config, commitUrl, address := address commitUrl }

/-- The error of an answer that cannot be read. -/
def decodingError : GraphError :=
  .http { step := .decoding, problem := "error decoding response body" }

/-- What an answer says. -/
def readAnswer (c : RemoteConfig) (status : Nat) (body : String) :
    Except GraphError (List StatementResult) :=
  if status == 401 || status == 403 then
    .error (.connection s!"authentication failed for user {Text.quoted c.username} ({statusText status})")
  else if status < 200 || 300 ≤ status then
    .error (.write s!"Neo4j returned {statusText status}: {body}")
  else match DatabaseResponse.parse? body with
    | none => .error decodingError
    | some r => match r.errors with
      | e :: _ => .error (.query e.code e.problem)
      | [] => .ok r.results

/-- What an answer says that breaks off: as much as an answer without a text. -/
def readCutOff (c : RemoteConfig) (status : Nat) (timedOut : Bool) :
    Except GraphError (List StatementResult) :=
  match readAnswer c status "" with
  | .error (.http error) => .error (.http { error with timedOut })
  | result => result

/-- The error of a request to a web address that gets no answer. -/
def lossError (url : String) (cause : Loss) : GraphError :=
  .http {
    step := .sending
    problem := s!"error sending request for url ({url})"
    noConnection := cause == .noConnection
    timedOut := cause == .timedOut }

/-- The error of a request that has no web address to be sent to. -/
def addressError : GraphError := .http { step := .building, problem := "builder error" }

/-- What the sender of a request hears, from what becomes of it. -/
def hear (r : Remote) (url : String) : Exchange → Except GraphError (List StatementResult)
  | .lost cause => .error (lossError url cause)
  | .cutOff status timedOut => readCutOff r.config status timedOut
  | .answered status body => readAnswer r.config status body

/-- Sends statements once. -/
def send {τ : Type} (r : Remote) (transport : Transport τ) (statements : List Statement) (s : τ) :
    Answer τ (List StatementResult) :=
  match r.address with
  | none => (.error addressError, s)
  | some url =>
    let (exchange, s) := transport ⟨url, r.config.username, r.config.password, statements⟩ s
    (r.hear url exchange, s)

/-- The pause before an attempt after the first, in milliseconds; the number has 64 bits. -/
def pause (attempt : Nat) : UInt64 := UInt64.ofNat (200 * Nat.pow 2 (attempt - 1))

/-- A pause in words: in milliseconds below a second, and else in seconds. -/
def pauseText (ms : Nat) : String :=
  if ms < 1000 then s!"{ms}ms"
  else
    let digits := (toString (1000 + ms % 1000)).toList.drop 1
    match Text.dropEnd (· == '0') digits with
    | [] => s!"{ms / 1000}s"
    | fraction => s!"{ms / 1000}.{String.ofList fraction}s"

/-- Sends statements, and again as long as they are lost and retries are left; `attempt` counts the
retries. -/
def commitFrom {τ : Type} (r : Remote) (transport : Transport τ) (statements : List Statement) :
    (retries attempt : Nat) → τ → Logged (Answer τ (List StatementResult))
  | 0, _, s => return r.send transport statements s
  | retries + 1, attempt, s =>
    match r.send transport statements s with
    | (.ok results, s) => return (.ok results, s)
    | (.error e, s) =>
      if e.isTransient then do
        Logged.warn s!"Neo4j request failed ({e.message}), retry {attempt + 1} in {pauseText (pause (attempt + 1)).toNat}"
        commitFrom r transport statements retries (attempt + 1) s
      else return (.error e, s)

/-- Sends statements with as many retries as configured. -/
def commit {τ : Type} (r : Remote) (transport : Transport τ) (statements : List Statement) (s : τ) :
    Logged (Answer τ (List StatementResult)) :=
  r.commitFrom transport statements r.config.maxRetries 0 s

/-- Whether the database can be reached. -/
def verify {τ : Type} (r : Remote) (transport : Transport τ) (s : τ) : Logged (Answer τ Unit) := do
  match ← r.commit transport [Statement.probe] s with
  | (.ok _, s) =>
    Logged.info s!"Connected to Neo4j at {r.commitUrl}"
    return (.ok (), s)
  | (.error (.connection problem), s) => return (.error (.connection problem), s)
  | (.error e, s) =>
    return (.error (.connection s!"cannot reach {r.config.uri}: {e.message}"), s)

/-- Sends a batch as one transaction. -/
def apply {τ : Type} (r : Remote) (transport : Transport τ) (batch : Batch) (s : τ) :
    Logged (Answer τ Unit) := do
  match ← r.commit transport (batch.ops.toList.map Statement.ofUpsert) s with
  | (.ok _, s) => return (.ok (), s)
  | (.error e, s) => return (.error e, s)

/-- The totals of the database. -/
def counts {τ : Type} (r : Remote) (transport : Transport τ) (s : τ) :
    Logged (Answer τ GraphCounts) := do
  match ← r.commit transport Statement.counts s with
  | (.ok results, s) => return (.ok (DatabaseResponse.totals results), s)
  | (.error e, s) => return (.error e, s)

/-- The database as a backend. -/
def backend {τ : Type} (r : Remote) (transport : Transport τ) : Backend τ where
  name := "neo4j"
  verify := r.verify transport
  apply := r.apply transport
  counts := r.counts transport

end Remote

end CodeGraph
