import ShieldPolicy.Generation.Violation
import ShieldPolicy.Location

/-!
# The import of the context type

The policy file imports the context type by a path relative to the output directory. The path is
worked out from the paths' text alone, so the context file need not exist yet and links do not
matter.
-/

namespace ShieldPolicy.ContextImport

/-- The endings that an import leaves out, in the order in which they are tried. -/
def sourceExtensions : List (List Char) :=
  [".d.ts", ".ts", ".tsx", ".mts", ".cts"].map String.toList

/-- The name without the first of these endings that leaves something of it. -/
def dropSourceExtension (name : String) : String :=
  match sourceExtensions.findSome? fun ending =>
      (Text.dropEnd? ending name.toList).filter fun stem => !stem.isEmpty with
  | some stem => String.ofList stem
  | none => name

/-- The place of the context file, whose path may be relative to the schema directory and may be
written with `\`. -/
def contextFile? (contextPath schemaRoot : Path) : Option Location :=
  (schemaRoot.anchoredAt contextPath.portable).locate?

/-- The import that takes these steps: the last name loses its source extension, and `./` stands in
front of a path that does not climb. -/
def written (steps : List String) (last : String) : String :=
  let path := Text.joinTexts "/" (steps ++ [dropSourceExtension last])
  if ['.', '.', '/'].isPrefixOf path.toList then path else "./" ++ path

def specifier (outputDirectory contextPath schemaRoot : Path) : Except Violation String :=
  if contextPath.isEmpty then .error .missingContextPath
  else if !schemaRoot.isAbsolute then .error (.relativePath .schemaRoot schemaRoot)
  else if !outputDirectory.isAbsolute then
    .error (.relativePath .outputDirectory outputDirectory)
  else match contextFile? contextPath schemaRoot, outputDirectory.locate? with
    | none, _ => .error (.unresolvableContext contextPath .contextAboveRoot)
    | some _, none => .error (.unresolvableContext contextPath .outputAboveRoot)
    | some target, some base =>
      match Location.relative? base target with
      | none => .error (.unresolvableContext contextPath .noSharedRoot)
      | some steps =>
        match steps.getLast? with
        | none => .error (.unresolvableContext contextPath .contextIsOutput)
        | some last => .ok (written steps.dropLast last)

end ShieldPolicy.ContextImport
