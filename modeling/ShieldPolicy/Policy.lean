import ShieldPolicy.Operation.Classification
import ShieldPolicy.Path
import ShieldPolicy.Text.Split

/-!
# The policy

A policy allows every known operation. It has one section per bucket that holds a name, so neither a
section nor a policy is ever empty. Its text is the lines of a module of TypeScript, each ended by
a line break.
-/

namespace ShieldPolicy

structure PolicySection where
  bucket : Bucket
  names : List String
deriving DecidableEq

structure Policy where
  specifier : String
  sections : List PolicySection
deriving DecidableEq

structure Document where
  path : Path
  contents : String
deriving DecidableEq

def Bucket.key : Bucket → String
  | .query => "query"
  | .mutation => "mutation"
  | .subscription => "subscription"

def Bucket.all : List Bucket := [.query, .mutation, .subscription]

namespace PolicySection

def of? (set : OperationSet) (b : Bucket) : Option PolicySection :=
  if (set.names b).isEmpty then none else some ⟨b, set.names b⟩

def openLine (b : Bucket) : String := "  " ++ b.key ++ ": \x7b"

def nameLine (name : String) : String := "    " ++ name ++ ": allow,"

def closeLine : String := "  \x7d,"

def lines (s : PolicySection) : List String :=
  openLine s.bucket :: s.names.map nameLine ++ [closeLine]

end PolicySection

namespace Policy

def ofOperations? (set : OperationSet) (specifier : String) : Option Policy :=
  match Bucket.all.filterMap (PolicySection.of? set) with
  | [] => none
  | sections => some ⟨specifier, sections⟩

def rulesImport : String := "import \x7b shield, allow \x7d from 'trpc-shield';"

def contextImport (specifier : String) : String :=
  "import \x7b Context \x7d from '" ++ specifier ++ "';"

def openLine : String := "export const permissions = shield<Context>(\x7b"

def closeLine : String := "\x7d);"

def lines (p : Policy) : List String :=
  [rulesImport, contextImport p.specifier, "", openLine] ++
    p.sections.flatMap PolicySection.lines ++ [closeLine]

def render (p : Policy) : String := String.join (p.lines.map fun line => line ++ "\n")

def document (p : Policy) (path : Path) : Document := ⟨path, p.render⟩

end Policy

end ShieldPolicy
