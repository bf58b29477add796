import ShieldPolicy.Host.Input
import ShieldPolicy.Host.Manifest
import ShieldPolicy.Host.Message
import ShieldPolicy.Host.Options

/-!
# A session with the host

The host writes one request on a line and reads one response on a line, in the same order. Blank
lines are passed over, and a line that cannot be read ends the session. Nothing is kept from one
request to the next.
-/

namespace ShieldPolicy

structure Session where
  settings : GeneratorSettings := {}
  environment : Environment := {}
  logger : Logger := .silent

namespace Session

variable {m : Type → Type} [Monad m] [Machine m]

def generate (session : Session) (id params : Json) : m Response := do
  match GeneratorOptions.decoder.decode params with
  | .error e =>
    return .failure id .invalidParams ("invalid generator options: " ++ e.message) none
  | .ok options =>
  match ← options.run session.logger session.environment session.settings with
  | .ok report =>
    session.logger.log (.requestCompleted report.queries report.mutations)
    return .success id .null
  | .error e =>
    session.logger.log (.requestFailed e)
    return .ofRunError id e

def answerRequest (session : Session) (r : Request) : m Response := do
  session.logger.log (.requestReceived r.method)
  if r.method = "getManifest" then
    return .success r.id (.ofMembers [("manifest", Manifest.standard.json)])
  else if r.method = "generate" then session.generate r.id r.params
  else return .failure r.id .methodNotFound ("method not found: " ++ r.method) none

def answer (session : Session) (line : String) : m Response := do
  match Request.decoder.parse line with
  | .ok r => session.answerRequest r
  | .error e =>
    session.logger.log (.requestMalformed e)
    return .failure .null .parseError ("parse error: " ++ e.message) none

def answerOn (session : Session) (stream : Stream) (line : String) : m Unit := do
  if (Text.trimChars line.toList).isEmpty then return ()
  let response ← session.answer line
  Machine.write stream (response.write ++ "\n")

/-- Answers lines on a stream, up to the first that cannot be read. -/
def answerAll (session : Session) (stream : Stream) :
    List (Except FileFault String) → m (Except FileFault Unit)
  | [] => return .ok ()
  | .error fault :: _ => return .error fault
  | .ok line :: rest => do
    session.answerOn stream line
    session.answerAll stream rest

def close (session : Session) : m Unit := session.logger.log .streamClosed

/-- Serves the host until it writes no more, or what it writes cannot be read. -/
def serveInput (session : Session) (stream : Stream) (input : Input) :
    m (Except FileFault Unit) := do
  match ← session.answerAll stream input.lines with
  | .error fault => return .error fault
  | .ok () =>
    session.close
    return .ok ()

/-- Serves a text. Every line of it can be read, so the result is always that of a session that was
served to its end. -/
def serve (session : Session) (stream : Stream) (text : String) : m Unit := do
  let _ ← session.serveInput stream text

end Session

end ShieldPolicy
