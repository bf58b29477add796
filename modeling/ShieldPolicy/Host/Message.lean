import ShieldPolicy.Generation.Failure
import ShieldPolicy.Json.Decoder
import ShieldPolicy.Json.Writer

/-!
# Messages of the host protocol

Requests and responses follow JSON-RPC 2.0: each is one JSON object on a line of its own.
-/

namespace ShieldPolicy

structure Request where
  id : Json := .null
  method : String := ""
  params : Json := .null
deriving Inhabited

def Request.decoder : Json.Decoder Request :=
  .record "RpcRequest"
    [ .defaulted "id" .any fun id r => { r with id },
      .required "method" .text fun method r => { r with method },
      .defaulted "params" .any fun params r => { r with params } ]
    {}

structure ResponseError where
  code : Int := 0
  message : String := ""
  data : Option Json := none
deriving Inhabited

structure Response where
  protocol : String := "2.0"
  id : Json := .null
  result : Option Json := none
  error : Option ResponseError := none
deriving Inhabited

inductive ErrorCode where
  | parseError
  | methodNotFound
  | invalidParams
  | generationFailed
deriving DecidableEq

def ErrorCode.value : ErrorCode → Int
  | .parseError => -32700
  | .methodNotFound => -32601
  | .invalidParams => -32602
  | .generationFailed => -32000

namespace ResponseError

def decoder : Json.Decoder ResponseError :=
  .record "RpcError"
    [ .required "code" .integer fun code e => { e with code },
      .required "message" .text fun message e => { e with message },
      .defaulted "data" (.optional .any) fun data e => { e with data } ]
    {}

def members (e : ResponseError) : List (String × String) :=
  [("code", toString e.code), ("message", Json.writeText e.message)] ++
    (e.data.map fun data => ("data", data.write)).toList

end ResponseError

namespace Response

def decoder : Json.Decoder Response :=
  .record "RpcResponse"
    [ .required "jsonrpc" .text fun protocol r => { r with protocol },
      .required "id" .any fun id r => { r with id },
      .defaulted "result" (.optional .any) fun result r => { r with result },
      .defaulted "error" (.optional ResponseError.decoder) fun error r => { r with error } ]
    {}

def success (id result : Json) : Response := { id, result := some result }

def failure (id : Json) (code : ErrorCode) (message : String) (data : Option Json) : Response :=
  { id, error := some { code := code.value, message, data } }

def ofRunError (id : Json) (e : GenerationError) : Response :=
  .failure id .generationFailed e.message
    (some (.ofMembers [("stage", .text e.stage.name)]))

def write (r : Response) : String :=
  Json.braced <|
    [("jsonrpc", Json.writeText r.protocol), ("id", r.id.write)] ++
    (r.result.map fun result => ("result", result.write)).toList ++
    (r.error.map fun e => ("error", Json.braced e.members)).toList

end Response

end ShieldPolicy
