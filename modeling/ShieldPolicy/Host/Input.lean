import ShieldPolicy.FileSystem.Fault
import ShieldPolicy.Text.Split

/-!
# What the host writes

The host writes bytes. They are read line by line; a line that is no text cannot be read, nor can
what comes after a fault of the stream.
-/

namespace ShieldPolicy

/-- The bytes of a stream, up to its end or to where reading fails. -/
structure Input where
  bytes : List UInt8
  fault : Option FileFault := none

namespace Input

def ofText (text : String) : Input := { bytes := text.toUTF8.data.toList }

instance : Coe String Input := ⟨ofText⟩

def decode (bytes : List UInt8) : Except FileFault String :=
  match String.fromUTF8? ⟨bytes.toArray⟩ with
  | some text => .ok text
  | none => .error .notText

def dropReturn (line : List Char) : List Char := (Text.dropEnd? ['\r'] line).getD line

def endedLine (bytes : List UInt8) : Except FileFault String :=
  (decode bytes).map fun text => String.ofList (dropReturn text.toList)

/-- The lines of an input, ended by line feeds. The last one need not be ended, unless reading fails
in it: what was read of it is lost then. -/
def lines (input : Input) : List (Except FileFault String) :=
  let pieces := Text.splitOn 10 input.bytes
  let ended := pieces.dropLast.map endedLine
  match input.fault with
  | some fault => ended ++ [.error fault]
  | none => ended ++ ((pieces.getLast?.filter fun piece => !piece.isEmpty).map decode).toList

end Input

end ShieldPolicy
