import ShieldPolicy.Proofs.Machine.Faulty
import ShieldPolicy.Proofs.Output.Writing

/-!
What came of writing the output, whichever operation failed: `write_all_or_nothing`.
-/

namespace ShieldPolicy.Output

open FileSystem Disk OnDisk
open Location (Below)

theorem validName_policy : ValidName "shield.ts" := by decide

theorem validName_draft : ValidName ("shield.ts" ++ ".tmp") := by decide

variable {σ : Type} [Machine (StateM σ)] [OnDisk σ] {s s' : σ} {logger : Logger} {dir : Path}
  {document : Option Document} {r : Except GenerationError Unit}

def nestedWorld : World where
  files.entries := [(["out"], .directory), (["out", "sub"], .directory),
    (["out", "sub", "x"], .directory)]

end ShieldPolicy.Output
