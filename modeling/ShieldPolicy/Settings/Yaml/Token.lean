/-!
# Tokens of YAML files

Besides what is written there are tokens for what indentation says: where a collection starts and
ends.
-/

namespace ShieldPolicy.Yaml

inductive Token where
  | versionDirective
  | tagDirective (handle start : String)
  | documentStart
  | documentEnd
  | blockSequenceStart
  | blockMappingStart
  | blockEnd
  | flowSequenceStart
  | flowSequenceEnd
  | flowMappingStart
  | flowMappingEnd
  | blockEntry
  | flowEntry
  | key
  | value
  | alias (name : String)
  | anchor (name : String)
  | tag (handle suffix : String)
  | scalar (isPlain : Bool) (text : String)
deriving DecidableEq, Inhabited

def Token.isDirective : Token → Bool
  | .versionDirective | .tagDirective _ _ => true
  | _ => false

end ShieldPolicy.Yaml
