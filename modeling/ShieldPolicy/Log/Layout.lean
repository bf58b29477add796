import ShieldPolicy.Json.Writer
import ShieldPolicy.Log.Record

/-!
# Log lines

A record is written as one line of text, with or without colours, or as one JSON object.
-/

namespace ShieldPolicy.Log

inductive Layout where
  | text
  | coloured
  | json
deriving DecidableEq

def ansi (code : String) : String := "\x1b[" ++ code ++ "m"

def paint (coloured : Bool) (code text : String) : String :=
  if coloured then ansi code ++ text ++ ansi "0" else text

def Level.colour : Level → String
  | .error => "31"
  | .warn => "33"
  | .info => "32"
  | .debug => "34"
  | .trace => "35"

def Level.padded (level : Level) : String :=
  String.ofList (List.replicate (5 - level.name.length) ' ') ++ level.name

/-- A character of a message. Those that could steer a terminal are written out. -/
def harmless (c : Char) : List Char :=
  if c = '\x1b' ∨ c = '\x07' ∨ c = '\x08' ∨ c = '\x0c' ∨ c = '\x7f' then
    let digits := Text.hexadecimal c.toNat
    ['\\', 'x'] ++ List.replicate (2 - digits.length) '0' ++ digits
  else if 0x80 ≤ c.toNat ∧ c.toNat ≤ 0x9f then
    ['\\', 'u', '\x7b'] ++ Text.hexadecimal c.toNat ++ ['\x7d']
  else [c]

def FieldValue.inText : FieldValue → String
  | .text s => Text.quoted s
  | .shown s => s
  | .number n => toString n
  | .flag b => toString b

def FieldValue.inJson : FieldValue → String
  | .text s | .shown s => Json.writeText s
  | .number n => toString n
  | .flag b => toString b

def textLine (coloured : Bool) (time : String) (r : Record) : String :=
  paint coloured "2" time ++ " " ++ paint coloured r.level.colour r.level.padded ++ " " ++
    paint coloured "2" r.target ++ paint coloured "2" ":" ++ " " ++
    String.ofList (r.message.toList.flatMap harmless) ++
    String.join (r.fields.map fun (name, value) =>
      " " ++ paint coloured "3" name ++ paint coloured "2" "=" ++ value.inText)

def jsonLine (time : String) (r : Record) : String :=
  Json.braced
    [ ("timestamp", Json.writeText time),
      ("level", Json.writeText r.level.name),
      ("fields", Json.braced (("message", Json.writeText r.message) ::
        r.fields.map fun (name, value) => (name, value.inJson))),
      ("target", Json.writeText r.target) ]

def Layout.write (layout : Layout) (time : String) (r : Record) : String :=
  (match layout with
    | .text => textLine false time r
    | .coloured => textLine true time r
    | .json => jsonLine time r) ++ "\n"

end ShieldPolicy.Log
