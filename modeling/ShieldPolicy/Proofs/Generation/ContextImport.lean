import ShieldPolicy.Generation.ContextImport
import ShieldPolicy.Proofs.Location.Relative
import ShieldPolicy.Proofs.Path.Climb

/-!
Where the import of the context type leads. Followed from the output directory it ends at the context
file without its source extension, or at the context path itself where that is a directory above:
`specifier_leads`.
-/

namespace ShieldPolicy

/-- The place reached when every piece between separators is taken as a step. -/
def Location.follow? (l : Location) (text : String) : Option Location :=
  l.walk? ((Text.splitOn '/' text.toList).map FileSystem.stepOf)

namespace ContextImport

variable {base target : Location} {way : List Path.Component} {file stem last : String}
  {output context root : Path}

/-! ### Source extensions -/

def IsStem (file stem : String) : Prop :=
  stem ≠ "" ∧ ∃ ending ∈ sourceExtensions, file.toList = stem.toList ++ ending

/-- The name under which a file is imported. The longest source extension is the one left out. -/
inductive ImportedAs (file : String) : String → Prop where
  | whole (plain : ∀ stem, ¬ IsStem file stem) : ImportedAs file file
  | stem {stem : String} (left : IsStem file stem)
      (shortest : ∀ other, IsStem file other → stem.length ≤ other.length) : ImportedAs file stem

def stemBefore? (name ending : List Char) : Option (List Char) :=
  (Text.dropEnd? ending name).filter fun stem => !stem.isEmpty

theorem stemBefore?_eq_some_iff {name ending stem : List Char} :
    stemBefore? name ending = some stem ↔ stem ≠ [] ∧ name = stem ++ ending := by
  rw [stemBefore?, Option.filter_eq_some_iff, Text.dropEnd?_eq_some_iff, and_comm]
  simp

/-- No ending is the end of one that is tried after it, so a shorter stem is found first. -/
theorem sourceExtensions_apart : sourceExtensions.Pairwise fun ending later => ¬ ending <:+ later := by
  decide

theorem importedAs_dropSourceExtension (file : String) :
    ImportedAs file (dropSourceExtension file) := by
  unfold dropSourceExtension
  split
  · rename_i found search
    obtain ⟨before, ending, after, all, cut, missed⟩ := List.findSome?_eq_some_iff.mp search
    obtain ⟨present, whole⟩ := stemBefore?_eq_some_iff.mp cut
    have member : ending ∈ sourceExtensions := by simp [all]
    refine .stem ⟨by simpa using present, ending, member, by simpa using whole⟩ ?_
    rintro other ⟨otherPresent, ending', member', whole'⟩
    have least : ending'.length ≤ ending.length := by
      rw [all, List.mem_append, List.mem_cons] at member'
      rcases member' with earlier | rfl | later
      · -- An ending that was tried before would have left a stem.
        have taken := stemBefore?_eq_some_iff.mpr ⟨by simpa using otherPresent, whole'⟩
        have missing : stemBefore? file.toList ending' = none := missed ending' earlier
        rw [missing] at taken
        cases taken
      · exact Nat.le_refl _
      · have apart := sourceExtensions_apart
        rw [all] at apart
        have apart' := (List.pairwise_cons.mp (List.pairwise_append.mp apart).2.1).1 _ later
        have ends : ending <:+ file.toList := ⟨found, whole.symm⟩
        have ends' : ending' <:+ file.toList := ⟨other.toList, whole'.symm⟩
        rcases List.suffix_or_suffix_of_suffix ends ends' with inside | inside
        · exact absurd inside apart'
        · exact inside.length_le
    have lengths := congrArg List.length (whole.symm.trans whole')
    rw [List.length_append, List.length_append, String.length_toList] at lengths
    rw [String.length_ofList]
    omega
  · rename_i search
    refine .whole ?_
    rintro stem ⟨present, ending, member, whole⟩
    have missed : stemBefore? file.toList ending = none :=
      List.findSome?_eq_none_iff.mp search ending member
    rw [stemBefore?_eq_some_iff.mpr ⟨by simpa using present, whole⟩] at missed
    cases missed

/-! ### The written import -/

theorem stepOf_segment {c : Path.Component} (plain : c = .parent ∨ ∃ name, c = .name name ∧ ValidName name) :
    FileSystem.stepOf (Path.Component.text c).toList = c := by
  obtain rfl | ⟨name, rfl, valid⟩ := plain
  · decide
  · exact FileSystem.stepOf_name valid

theorem slash_not_mem_segment {c : Path.Component}
    (plain : c = .parent ∨ ∃ name, c = .name name ∧ ValidName name) : '/' ∉ (Path.Component.text c).toList := by
  obtain rfl | ⟨name, rfl, valid⟩ := plain
  · decide
  · exact valid.2.2.2

theorem written_relative (steps : List String) (last : String) :
    ['.', '/'] <+: (written steps last).toList ∨ ['.', '.', '/'] <+: (written steps last).toList := by
  unfold written
  dsimp only
  split
  · rename_i climbs
    exact .inr (List.isPrefixOf_iff_prefix.mp climbs)
  · refine .inl ?_
    rw [String.toList_append]
    exact List.prefix_append _ _

theorem follow?_written (plain : ∀ c ∈ way, c = .parent ∨ ∃ name, c = .name name ∧ ValidName name)
    (whole : '/' ∉ (dropSourceExtension last).toList) :
    base.follow? (written (way.map Path.Component.text) last) =
      base.walk? (way ++ [FileSystem.stepOf (dropSourceExtension last).toList]) := by
  have pieces : Text.splitOn '/'
      (Text.joinTexts "/" (way.map Path.Component.text ++ [dropSourceExtension last])).toList =
        way.map (fun c => (Path.Component.text c).toList) ++ [(dropSourceExtension last).toList] := by
    have joined := Text.toList_joinTexts '/' (way.map Path.Component.text ++ [dropSourceExtension last])
    rw [show String.singleton '/' = "/" from rfl] at joined
    rw [joined, Text.splitOn_joinWith (by simp)]
    · simp
    · intro piece member
      simp only [List.map_append, List.map_map, List.mem_append, List.mem_map, List.map_cons,
        List.map_nil, List.mem_singleton] at member
      obtain ⟨c, there, rfl⟩ | rfl := member
      · exact slash_not_mem_segment (plain c there)
      · exact whole
  have steps : (way.map fun c => (Path.Component.text c).toList).map FileSystem.stepOf = way := by
    rw [List.map_map]
    exact List.map_congr_left (fun c member => stepOf_segment (plain c member)) |>.trans (List.map_id _)
  unfold Location.follow? written
  dsimp only
  split
  · rw [pieces, List.map_append, steps]
    rfl
  · -- The `./` in front stays where it is.
    have front : Text.splitOn '/' ("./" ++ Text.joinTexts "/" (way.map Path.Component.text ++ [dropSourceExtension last])).toList
        = ['.'] :: Text.splitOn '/' (Text.joinTexts "/" (way.map Path.Component.text ++ [dropSourceExtension last])).toList := by
      rw [String.toList_append]
      exact Text.splitOn_append_cons '/' ['.'] _
    rw [front, pieces, List.map_cons, List.map_append, steps]
    rfl

/-! ### Where it leads -/

def anchored (contextPath schemaRoot : Path) : Path := schemaRoot.anchoredAt contextPath.portable

structure Leads (base target : Location) (text : String) : Prop where
  relative : ['.', '/'] <+: text.toList ∨ ['.', '.', '/'] <+: text.toList
  above : target <+: base → base.follow? text = some target
  file : ¬ target <+: base → ∃ dir file stem, target = dir ++ [file] ∧ ImportedAs file stem ∧
    (stem ≠ "." → stem ≠ ".." → base.follow? text = some (dir ++ [stem]))

theorem ImportedAs.part (imported : ImportedAs file stem) : stem.toList <+: file.toList := by
  cases imported with
  | whole => exact List.prefix_refl _
  | stem left =>
    obtain ⟨-, ending, -, whole⟩ := left
    exact ⟨ending, whole.symm⟩

theorem ImportedAs.present (imported : ImportedAs file stem) (present : file ≠ "") : stem ≠ "" := by
  cases imported with
  | whole => exact present
  | stem left => exact left.1

theorem validName_stem (imported : ImportedAs file stem) (valid : ValidName file) (dot : stem ≠ ".")
    (dots : stem ≠ "..") : ValidName stem := by
  refine ⟨imported.present valid.1, dot, dots, ?_⟩
  intro slash
  exact valid.2.2.2 (imported.part.subset slash)

theorem leads_written {c : Path.Component} (valid : ∀ name ∈ target, ValidName name)
    (steps : Location.relative base target = way ++ [c]) :
    Leads base target (written (way.map Path.Component.text) (Path.Component.text c)) := by
  have plain {d : Path.Component} (member : d ∈ way ++ [c]) :
      d = .parent ∨ ∃ name, d = .name name ∧ ValidName name := by
    rw [← steps] at member
    obtain up | ⟨name, there, down⟩ := Location.mem_relative member
    · exact .inl up
    · exact .inr ⟨name, down, valid name there⟩
  have front : ∀ d ∈ way, d = .parent ∨ ∃ name, d = .name name ∧ ValidName name :=
    fun d member => plain (List.mem_append_left _ member)
  have reached := Location.walk?_relative base target
  refine ⟨written_relative _ _, ?_, ?_⟩
  · intro above
    -- Only `..` leads to a directory above, and no extension stands there.
    have up : c = .parent := by
      have member : c ∈ Location.relative base target := by simp [steps]
      rw [Location.relative_above above] at member
      exact List.eq_of_mem_replicate member
    subst up
    rw [steps] at reached
    rw [follow?_written front (by decide), ← reached]
    rfl
  · intro apart
    obtain ⟨way', dir, file, whole, steps'⟩ := Location.relative_apart apart
    obtain ⟨rfl, last⟩ := List.append_inj' (steps.symm.trans steps') rfl
    obtain rfl : c = .name file := by simpa using last
    have fileValid : ValidName file := valid file (by simp [whole])
    have imported := importedAs_dropSourceExtension file
    refine ⟨dir, file, dropSourceExtension file, whole, imported, ?_⟩
    intro dot dots
    have stemValid := validName_stem imported fileValid dot dots
    rw [show Path.Component.text (.name file) = file from rfl, follow?_written front stemValid.2.2.2,
      FileSystem.stepOf_name stemValid, Location.walk?_append]
    -- The way to the file leads to its directory first.
    rw [steps, Location.walk?_append, whole] at reached
    cases arrived : base.walk? way with
    | none => simp [arrived] at reached
    | some mid =>
      rw [arrived] at reached
      obtain ⟨rfl, -⟩ : mid = dir ∧ True := by
        simpa [Location.walk?, Location.step?] using reached
      rfl

section Specifier

variable (given : context.isEmpty = false) (rootAbsolute : root.isAbsolute)
  (outputAbsolute : output.isAbsolute)
include given rootAbsolute outputAbsolute

theorem specifier_of_context_above_root (above : (anchored context root).locate? = none) :
    specifier output context root = .error (.unresolvableContext context .contextAboveRoot) := by
  unfold specifier contextFile?
  rw [anchored] at above
  simp only [given, rootAbsolute, outputAbsolute, above, Bool.not_true, Bool.false_eq_true, if_false]

theorem specifier_of_output_above_root (located : (anchored context root).locate? = some target)
    (above : output.locate? = none) :
    specifier output context root = .error (.unresolvableContext context .outputAboveRoot) := by
  unfold specifier contextFile?
  rw [anchored] at located
  simp only [given, rootAbsolute, outputAbsolute, located, above, Bool.not_true,
    Bool.false_eq_true, if_false]

theorem specifier_of_same (located : (anchored context root).locate? = some base)
    (here : output.locate? = some base) :
    specifier output context root = .error (.unresolvableContext context .contextIsOutput) := by
  unfold specifier contextFile?
  rw [anchored] at located
  simp only [given, rootAbsolute, outputAbsolute, located, here, Bool.not_true,
    Bool.false_eq_true, if_false, Location.relative?_eq, Location.relative_eq_nil_iff.mpr,
    List.map_nil, List.getLast?_nil]

theorem specifier_of_apart (located : (anchored context root).locate? = some target)
    (here : output.locate? = some base) (apart : target ≠ base) :
    ∃ way c, Location.relative base target = way ++ [c] ∧
      specifier output context root = .ok (written (way.map Path.Component.text) (Path.Component.text c)) := by
  have some : Location.relative base target ≠ [] := fun none =>
    apart (Location.relative_eq_nil_iff.mp none)
  obtain ⟨way, c, cut⟩ : ∃ way c, Location.relative base target = way ++ [c] :=
    ⟨_, _, (List.dropLast_concat_getLast some).symm⟩
  refine ⟨way, c, cut, ?_⟩
  unfold specifier contextFile?
  rw [anchored] at located
  simp only [given, rootAbsolute, outputAbsolute, located, here, Bool.not_true,
    Bool.false_eq_true, if_false, Location.relative?_eq, cut]
  simp

/-- The import of the context type leads to the context file without its source extension, or to
the context path itself where that is a directory above the output directory. It fails only when
one of the two paths climbs above the root or both lead to the same place. -/
theorem specifier_leads :
    (∀ text, specifier output context root = .ok text → ∃ base target,
      output.locate? = some base ∧ (anchored context root).locate? = some target ∧
        Leads base target text) ∧
    ((∃ v, specifier output context root = .error v) ↔
      (anchored context root).ClimbsAboveRoot ∨ output.ClimbsAboveRoot ∨
        ∃ l, output.locate? = some l ∧ (anchored context root).locate? = some l) := by
  rw [← Path.locate?_eq_none_iff, ← Path.locate?_eq_none_iff]
  cases located : (anchored context root).locate? with
  | none =>
    rw [specifier_of_context_above_root given rootAbsolute outputAbsolute located]
    refine ⟨nofun, ?_⟩
    simp
  | some target =>
    cases here : output.locate? with
    | none =>
      rw [specifier_of_output_above_root given rootAbsolute outputAbsolute located here]
      refine ⟨nofun, ?_⟩
      simp
    | some base =>
      by_cases same : target = base
      · subst same
        rw [specifier_of_same given rootAbsolute outputAbsolute located here]
        refine ⟨nofun, ?_⟩
        simp
      · obtain ⟨way, c, steps, written⟩ :=
          specifier_of_apart given rootAbsolute outputAbsolute located here same
        have valid : ∀ name ∈ target, ValidName name := fun name member =>
          Path.validName_of_mem_locate? located member
        rw [written]
        refine ⟨?_, ?_⟩
        · rintro text ⟨⟩
          exact ⟨base, target, rfl, rfl, leads_written valid steps⟩
        · simp [same]

end Specifier

theorem specifier_leads_declaration :
    specifier ⟨"/app/src/generated"⟩ ⟨"lib\\context.d.ts"⟩ ⟨"/app/src"⟩ = .ok "../lib/context" ∧
      ∃ base target, (⟨"/app/src/generated"⟩ : Path).locate? = some base ∧
        (anchored ⟨"lib\\context.d.ts"⟩ ⟨"/app/src"⟩).locate? = some target ∧
          Leads base target "../lib/context" := by
  have run : specifier ⟨"/app/src/generated"⟩ ⟨"lib\\context.d.ts"⟩ ⟨"/app/src"⟩ =
      .ok "../lib/context" := by decide
  exact ⟨run, (specifier_leads (by decide) (by decide) (by decide)).1 _ run⟩

/-- A directory above keeps its extension, for the import ends in `..` there. -/
theorem specifier_of_directory_above :
    specifier ⟨"/work/lib.ts/generated"⟩ ⟨"."⟩ ⟨"/work/lib.ts"⟩ = .ok "./.." ∧
      (anchored ⟨"."⟩ ⟨"/work/lib.ts"⟩).locate? = some ["work", "lib.ts"] ∧
      ImportedAs "lib.ts" "lib" ∧
      (⟨"/work/lib.ts/generated"⟩ : Path).locate? = some ["work", "lib.ts", "generated"] ∧
      Location.follow? ["work", "lib.ts", "generated"] "./.." ≠ some ["work", "lib"] := by
  refine ⟨by decide, by decide, ?_, by decide, by decide⟩
  have short : dropSourceExtension "lib.ts" = "lib" := by decide
  rw [← short]
  exact importedAs_dropSourceExtension "lib.ts"

end ContextImport

end ShieldPolicy
