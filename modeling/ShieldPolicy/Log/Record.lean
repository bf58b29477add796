import ShieldPolicy.Text.Quoted

/-!
# Log records

A record says what happened where, with fields that tell the particulars.
-/

namespace ShieldPolicy.Log

inductive Level where
  | error
  | warn
  | info
  | debug
  | trace
deriving DecidableEq

namespace Level

/-- A greater rank matters less. -/
def rank : Level → Nat
  | .error => 1
  | .warn => 2
  | .info => 3
  | .debug => 4
  | .trace => 5

def name : Level → String
  | .error => "ERROR"
  | .warn => "WARN"
  | .info => "INFO"
  | .debug => "DEBUG"
  | .trace => "TRACE"

end Level

inductive FieldValue where
  /-- A text, which lines show in quotes. -/
  | text (s : String)
  /-- A text that is shown as it is. -/
  | shown (s : String)
  | number (n : Nat)
  | flag (b : Bool)
deriving DecidableEq

structure Record where
  level : Level
  target : String
  message : String
  fields : List (String × FieldValue) := []
deriving DecidableEq

end ShieldPolicy.Log
