import ShieldPolicy.Json.Writer
import ShieldPolicy.Provider

/-!
# The manifest

What the generator tells the host about itself.
-/

namespace ShieldPolicy

structure Manifest where
  /-- Where the output goes when the schema does not say. -/
  defaultOutput : String
  prettyName : String
  requiresGenerators : List String
deriving DecidableEq

namespace Manifest

def standard : Manifest where
  defaultOutput := "./generated"
  prettyName := "Prisma tRPC Shield Generator"
  requiresGenerators := Provider.companions.take 1

def json (manifest : Manifest) : Json :=
  .ofMembers
    [ ("defaultOutput", .text manifest.defaultOutput),
      ("prettyName", .text manifest.prettyName),
      ("requiresGenerators", .array (manifest.requiresGenerators.map .text)) ]

def pretty (manifest : Manifest) : String :=
  Json.indentedBlock "\x7b" "\x7d" 0
    [ "\"defaultOutput\": " ++ Json.writeText manifest.defaultOutput,
      "\"prettyName\": " ++ Json.writeText manifest.prettyName,
      "\"requiresGenerators\": " ++
        Json.indentedBlock "[" "]" 1 (manifest.requiresGenerators.map Json.writeText) ]

end Manifest

end ShieldPolicy
