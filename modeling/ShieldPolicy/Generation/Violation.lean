import ShieldPolicy.Path
import ShieldPolicy.Text.Quoted

/-!
# Rules on the configuration of a run

The ways in which the three paths of a configuration can be unfit for a run.
-/

namespace ShieldPolicy

inductive AnchorField where
  | outputDirectory
  | schemaRoot
deriving DecidableEq

def AnchorField.name : AnchorField → String
  | .outputDirectory => "outputDirectory"
  | .schemaRoot => "schemaRootPath"

inductive ImportObstacle where
  | contextAboveRoot
  | outputAboveRoot
  | noSharedRoot
  | contextIsOutput
deriving DecidableEq

def ImportObstacle.message : ImportObstacle → String
  | .contextAboveRoot => "it escapes the filesystem root"
  | .outputAboveRoot => "the output directory escapes the filesystem root"
  | .noSharedRoot => "it shares no root with the output directory"
  | .contextIsOutput => "it points at the output directory itself"

inductive OutputDanger where
  | root
  | holdsSchema
  | holdsContext
  | aboveRoot
deriving DecidableEq

def OutputDanger.message : OutputDanger → String
  | .root => "it is a filesystem root"
  | .holdsSchema => "it contains the schema root"
  | .holdsContext => "it contains the context type file"
  | .aboveRoot => "it escapes the filesystem root"

inductive Violation where
  | missingContextPath
  | relativePath (field : AnchorField) (path : Path)
  | unresolvableContext (path : Path) (obstacle : ImportObstacle)
  | unsafeOutput (path : Path) (danger : OutputDanger)
deriving DecidableEq

def Violation.message : Violation → String
  | .missingContextPath => "contextPath is required but was not provided"
  | .relativePath field path =>
    field.name ++ " must be an absolute path, got " ++ Text.quoted path.text
  | .unresolvableContext path obstacle =>
    "context path " ++ Text.quoted path.text ++ " cannot be resolved: " ++ obstacle.message
  | .unsafeOutput path danger =>
    "refusing to use output directory " ++ Text.quoted path.text ++ ": " ++ danger.message

end ShieldPolicy
