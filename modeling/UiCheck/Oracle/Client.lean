import UiCheck.Number.Digits
import UiCheck.Oracle.Prompt
import UiCheck.Oracle.Stream
import UiCheck.Text.Utf8

/-! # Talking to an oracle

A prompt is posted to an endpoint by a transfer program, whose output is the reply. The reply is streamed
first; if the endpoint sends no content that way and no refusal either, it is asked once more without a
stream. What the transfer program does is left to the courier.
-/

namespace UiCheck.Oracle

/-- How to reach an oracle. Times are in seconds. -/
structure Settings where
  endpoint : String
  model : String
  apiKey : Option String
  maxTokens : Nat
  connectTimeout : Nat
  /-- How long a streamed reply may pause. -/
  activityTimeout : Nat
  deriving DecidableEq, Inhabited, Repr

/-- What one run of the transfer program gave. -/
structure Transfer where
  stdout : ByteArray
  stderr : ByteArray
  succeeded : Bool
  /-- The program fell silent behind its output and had to be stopped. -/
  stalled : Bool := false
  deriving Inhabited

/-- What runs the transfer program, with states in `σ`. -/
structure Courier (σ : Type) where
  /-- Runs the program with arguments and a text to send. -/
  transfer (arguments : List String) (body : String) : σ → Except IoError Transfer × σ

/-- A step of a transfer that can be watched. -/
inductive Progress where
  | connected
  /-- So many bytes of content have come. -/
  | receiving (bytes : Nat)
  | complete (bytes : Nat)
  deriving DecidableEq, Inhabited, Repr

/-- The document that is posted. -/
def requestBody (settings : Settings) (prompt : String) (stream : Bool) : Json :=
  .sorted ([("model", .string settings.model),
    ("messages", .list [.sorted [("role", .string "user"), ("content", .string prompt)]]),
    ("max_tokens", .nat settings.maxTokens)] ++ (if stream then [("stream", .bool true)] else []))

/-- The arguments of the transfer program. -/
def arguments (settings : Settings) (stream : Bool) : List String :=
  ["-s"] ++ (if stream then ["-N"] else []) ++
    ["-X", "POST", settings.endpoint, "-H", "Content-Type: application/json", "--data-binary", "@-",
     "--connect-timeout", toString settings.connectTimeout] ++
    (match settings.apiKey with
      | some key => ["-H", s!"Authorization: Bearer {key}"]
      | none => [])

section

variable {σ : Type}

/-- Posts a prompt. -/
def post (courier : Courier σ) (settings : Settings) (prompt : String) (stream : Bool) (s : σ) :
    Except IoError Transfer × σ :=
  courier.transfer (arguments settings stream) (requestBody settings prompt stream).toCompact s

/-- Asks without a stream. -/
def completeWhole (courier : Courier σ) (settings : Settings) (prompt : String) (s : σ) :
    Except OracleError String × σ :=
  match post courier settings prompt false s with
  | (.error e, s) => (.error (.io e), s)
  | (.ok reply, s) =>
    if ! reply.succeeded then (.error (.connectionFailed (Text.decodeLenient reply.stderr)), s)
    else
      match Json.ofBytes reply.stdout with
      | .error e => (.error (.invalidResponse e.message), s)
      | .ok doc =>
        match contentAt? "message" doc with
        | some content =>
          if content.isEmpty then (.error (.invalidResponse "response has no message content"), s)
          else (.ok content, s)
        | none => (.error (.invalidResponse "response has no message content"), s)

/-- Decides what a streamed reply that is over means. Without content and without a refusal the oracle is
asked once more. -/
def settle (courier : Courier σ) (settings : Settings) (prompt : String) (succeeded : Bool)
    (received : Received) (s : σ) : Except OracleError String × σ :=
  if received.content.isEmpty then
    if ! succeeded then (.error (.connectionFailed "curl process failed"), s)
    else
      match refusal? received.others with
      | some message => (.error (.invalidResponse message), s)
      | none => completeWhole courier settings prompt s
  else (.ok received.content, s)

/-- Asks for a completion of a prompt. The second part of the answer is what a watcher sees. -/
def completeWatched (courier : Courier σ) (settings : Settings) (prompt : String) (s : σ) :
    Except OracleError String × List Progress × σ :=
  match post courier settings prompt true s with
  | (.error e, s) => (.error (.io e), [], s)
  | (.ok reply, s) =>
    let (ending, received) := receive {} (Text.byteLines reply.stdout)
    let seen := .connected :: received.sizes.reverse.map .receiving
    match ending, reply.stalled with
    | .garbled, _ => (.error (.io .notText), seen, s)
    | .closed, true => (.error (.silence (1000 * settings.activityTimeout)), seen, s)
    | _, _ =>
      let (answer, s) := settle courier settings prompt reply.succeeded received s
      let size := received.content.utf8ByteSize
      (answer, if received.content.isEmpty then seen else seen ++ [.complete size], s)

/-- Asks for a completion of a prompt. -/
def complete (courier : Courier σ) (settings : Settings) (prompt : String) (s : σ) :
    Except OracleError String × σ :=
  match completeWatched courier settings prompt s with
  | (answer, _, s) => (answer, s)

/-- The oracle behind an endpoint. -/
def remote (courier : Courier σ) (settings : Settings) : Oracle σ where
  ask request := complete courier settings (prompt request)

/-- The address of an endpoint without its path. -/
def endpointRoot (endpoint : String) : String :=
  let (scheme, rest) := match Text.cut? "://".toList endpoint.toList with
    | some (scheme, rest) => (scheme, rest)
    | none => ("https".toList, endpoint.toList)
  String.ofList (scheme ++ "://".toList ++ rest.takeWhile (· != '/'))

/-- The endpoint answers, whatever it answers. -/
def isReachable (courier : Courier σ) (endpoint : String) (timeout : Nat) (s : σ) :
    Except OracleError Bool × σ :=
  let arguments := ["-s", "-o", "/dev/null", "-w", "%\x7bhttp_code\x7d", "--connect-timeout", toString timeout,
    "--max-time", toString timeout, "-I", endpointRoot endpoint]
  match courier.transfer arguments "" s with
  | (.error e, s) => (.error (.io e), s)
  | (.ok reply, s) =>
    let status := Text.trim (Text.decodeLenient reply.stdout).toList
    (.ok (0 < (Number.unsigned? 10 Number.word16 status).getD 0), s)

end

end UiCheck.Oracle
