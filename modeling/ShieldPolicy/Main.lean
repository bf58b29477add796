import ShieldPolicy.Machine.Computer
import ShieldPolicy.Program

/-!
# The executable

Runs the program on the computer. Requests of the host are answered as they come in.
-/

namespace ShieldPolicy

/-- Reads on from some bytes, which are given backwards, to the end of a line or of all. -/
partial def readLine (stream : IO.FS.Stream) (before : List UInt8) : IO (List UInt8) := do
  match (← stream.read 1).toList with
  | [] => return before.reverse
  | byte :: _ =>
    if byte = 10 then return (byte :: before).reverse
    readLine stream (byte :: before)

/-- Answers each line of a stream as soon as it is there. -/
partial def answerLines (stream : IO.FS.Stream) (session : Session) :
    Computer (Except FileFault Unit) := do
  let input : Input ←
    try pure { bytes := ← readLine stream [] }
    catch e => pure { bytes := [], fault := some (Computer.faultOf e) }
  if input.lines.isEmpty then return .ok ()
  match ← session.answerAll .error input.lines with
  | .error fault => return .error fault
  | .ok () => answerLines stream session

def serveHost (session : Session) : Computer (Except FileFault Unit) := do
  match ← answerLines (← IO.getStdin) session with
  | .error fault => return .error fault
  | .ok () =>
    session.close
    return .ok ()

end ShieldPolicy

open ShieldPolicy in
def main (args : List String) : IO UInt32 := do
  let env ← Computer.environment
  let (code, _) ← (Program.runWith serveHost env args).run none
  return code.toUInt32
