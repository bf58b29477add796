import Mathlib.Data.Bool.AllAny
import ShieldPolicy.Generation
import ShieldPolicy.Proofs.Generation.Violations
import ShieldPolicy.Proofs.Policy.Literal

/-!
The import of the context type as a string literal. What is written between the quotes are names of
directories, which may hold quotes, backslashes and line breaks: the import is complete exactly when
none of them does, `Generation.context_imported`.
-/

namespace ShieldPolicy

open Literal Location

variable {separators : Bool} {c : Char}

def Literal.IsClean (separators : Bool) (text : String) : Prop :=
  ∀ c ∈ text.toList, IsPlain separators c

namespace Text

variable {sep : Char} {pieces : List (List Char)} {cs piece : List Char}

theorem forall_mem_joinWith {P : Char → Prop} (sound : P sep) :
    (∀ c ∈ joinWith sep pieces, P c) ↔ ∀ piece ∈ pieces, ∀ c ∈ piece, P c := by
  induction pieces with
  | nil => simp [joinWith]
  | cons piece rest ih =>
    cases rest with
    | nil => simp [joinWith]
    | cons next rest =>
      rw [joinWith, List.forall_mem_append, List.forall_mem_cons, ih, List.forall_mem_cons]
      · simp [sound]
      · intro none
        cases none

theorem mem_of_mem_splitOn (member : piece ∈ splitOn sep cs) (inside : c ∈ piece) : c ∈ cs := by
  have each : (∀ c ∈ joinWith sep (splitOn sep cs), c = sep ∨ c ∈ cs) ↔
      ∀ piece ∈ splitOn sep cs, ∀ c ∈ piece, c = sep ∨ c ∈ cs := forall_mem_joinWith (.inl rfl)
  rw [joinWith_splitOn] at each
  rcases each.mp (fun _ => .inr) piece member c inside with rfl | there
  · exact absurd inside (not_mem_of_mem_splitOn member)
  · exact there

end Text

/-! ### What is written -/

namespace ContextImport

variable {base target : Location} {steps : List String} {last file : String}

theorem isPlain_added : ∀ c ∈ "./dtsxmc".toList, IsPlain separators c := by
  have apart : ∀ c ∈ "./dtsxmc".toList, c ≠ '\x27' ∧ c ≠ '\\' ∧ c ≠ '\n' ∧ c ≠ '\r' ∧
      c ≠ '\u2028' ∧ c ≠ '\u2029' := List.all_iff_forall_prop.mp (by decide)
  intro c member
  obtain ⟨quote, backslash, feed, carriage, separator⟩ := apart c member
  exact ⟨quote, backslash, feed, carriage, fun _ => separator⟩

theorem isClean_dropSourceExtension :
    IsClean separators (dropSourceExtension file) ↔ IsClean separators file := by
  have imported := importedAs_dropSourceExtension file
  generalize dropSourceExtension file = stem at imported
  cases imported with
  | whole => exact Iff.rfl
  | stem left =>
    obtain ⟨_, ending, member, whole⟩ := left
    have all : sourceExtensions.flatten.all (fun c => c ∈ "./dtsxmc".toList) := by decide
    have plain (c : Char) (inside : c ∈ ending) : c ∈ "./dtsxmc".toList :=
      List.all_iff_forall_prop.mp all c (List.mem_flatten.mpr ⟨ending, member, inside⟩)
    rw [IsClean, IsClean, whole, List.forall_mem_append]
    exact ⟨fun stem => ⟨stem, fun c inside => isPlain_added c (plain c inside)⟩,
      fun both => both.1⟩

theorem isClean_written :
    IsClean separators (written steps last) ↔
      ∀ step ∈ steps ++ [last], IsClean separators step := by
  have slash : IsPlain separators '/' := isPlain_added '/' (by decide)
  have dot : IsPlain separators '.' := isPlain_added '.' (by decide)
  have joined : IsClean separators (Text.joinTexts "/" (steps ++ [dropSourceExtension last])) ↔
      ∀ step ∈ steps ++ [last], IsClean separators step := by
    have pieces := Text.toList_joinTexts '/' (steps ++ [dropSourceExtension last])
    rw [show String.singleton '/' = "/" from rfl] at pieces
    rw [IsClean, pieces, Text.forall_mem_joinWith slash, List.forall_mem_append]
    simp only [List.map_append, List.forall_mem_append, List.forall_mem_map, List.map_cons,
      List.map_nil, List.forall_mem_singleton]
    exact and_congr Iff.rfl isClean_dropSourceExtension
  have added : ∀ c ∈ "./".toList, c ∈ "./dtsxmc".toList :=
    List.all_iff_forall_prop.mp (by decide)
  unfold written
  dsimp only
  split
  · exact joined
  · rw [← joined, IsClean, String.toList_append, List.forall_mem_append]
    constructor
    · rintro ⟨_, rest⟩
      exact rest
    · intro rest
      refine ⟨?_, rest⟩
      intro c member
      exact isPlain_added c (added c member)

/-- Only the names that lead down from the shared place are written out. -/
theorem isClean_segments : (∀ step ∈ relative base target, IsClean separators (Path.Component.text step)) ↔
    ∀ name ∈ target.drop (commonLength base target), IsClean separators name := by
  have up : IsClean separators (Path.Component.text .parent) := by
    intro c member
    have all : (Path.Component.text .parent).toList.all (fun c => c ∈ "./dtsxmc".toList) := by decide
    exact isPlain_added c (List.all_iff_forall_prop.mp all c member)
  rw [relative, List.forall_mem_append]
  constructor
  · rintro ⟨_, down⟩ name member
    exact down (.name name) (List.mem_map_of_mem member)
  · intro down
    refine ⟨?_, List.forall_mem_map.mpr down⟩
    intro step member
    rwa [List.eq_of_mem_replicate member]

end ContextImport

/-! ### Where names come from -/

namespace Path

variable {p base : Path} {l : Location} {name : String}

theorem mem_of_mem_components (member : .name name ∈ p.components) (inside : c ∈ name.toList) :
    c ∈ p.text.toList := by
  obtain ⟨piece, there, _, same⟩ := exists_piece_of_mem_components member
  unfold Component.ofPiece at same
  split at same
  · cases same
  · cases same
    exact Text.mem_of_mem_splitOn (List.mem_filter.mp there).1 (by simpa using inside)

theorem mem_of_mem_locate? (located : p.locate? = some l) (member : name ∈ l)
    (inside : c ∈ name.toList) : c ∈ p.text.toList :=
  mem_of_mem_components (mem_components_of_mem_locate? located member) inside

theorem mem_portable (member : c ∈ p.portable.text.toList) :
    c = '/' ∨ c ∈ p.text.toList ∧ c ≠ '\\' := by
  rw [portable, String.toList_ofList] at member
  obtain ⟨d, there, same⟩ := List.mem_map.mp member
  split at same
  · exact .inl same.symm
  · subst same
    exact .inr ⟨there, by assumption⟩

theorem mem_anchoredAt (member : c ∈ (base.anchoredAt p).text.toList) :
    c = '/' ∨ c ∈ p.text.toList ∨ p.isAbsolute = false ∧ c ∈ base.text.toList := by
  unfold anchoredAt join at member
  cases absolute : p.isAbsolute with
  | true =>
    rw [absolute, if_pos rfl] at member
    exact .inr (.inl member)
  | false =>
    rw [absolute, if_neg Bool.false_ne_true, if_neg Bool.false_ne_true] at member
    split at member
    · rw [String.toList_append, List.mem_append] at member
      tauto
    · simp only [String.toList_append, List.mem_append] at member
      rcases member with (before | slash) | after
      · exact .inr (.inr ⟨rfl, before⟩)
      · exact .inl (by simpa using slash)
      · exact .inr (.inl after)

end Path

/-! ### The policy of a configuration -/

namespace Generation

open ContextImport Policy

variable {config : GenerationConfig} {validated : ValidatedConfig} {set : OperationSet}

theorem documentFor_eq_some (validated : ValidatedConfig) (present : ∃ b, set.names b ≠ []) :
    ∃ p : Policy, p.specifier = validated.contextSpecifier ∧
      documentFor validated set = some (p.document validated.outputFile) := by
  obtain ⟨b, names⟩ := present
  have due : PolicySection.of? set b = some ⟨b, set.names b⟩ := by
    simp [PolicySection.of?, names]
  unfold documentFor ofOperations?
  split
  · rename_i none
    have member : b ∈ Bucket.all := by cases b <;> decide
    have none := List.filterMap_eq_nil_iff.mp none b member
    rw [due] at none
    cases none
  · exact ⟨_, rfl, rfl⟩

/-- The specifier is clean when the names are that lead from the shared place down to the context
file. -/
theorem specifier_isClean_iff (accepted : config.validate = .ok validated) :
    ∃ base target, config.outputDirectory.locate? = some base ∧
      config.contextAnchored.locate? = some target ∧
      ∀ separators, IsClean separators validated.contextSpecifier ↔
        ∀ name ∈ target.drop (commonLength base target), IsClean separators name := by
  obtain ⟨base, target, here, _, located, outside, _⟩ := GenerationConfig.accepted_located accepted
  obtain ⟨given, schemaAbsolute, outputAbsolute⟩ :=
    GenerationConfig.absolute_of_paths (GenerationConfig.violations_nil accepted).1
  have apart : target ≠ base := by
    rintro rfl
    exact outside (List.prefix_refl _)
  obtain ⟨way, step, steps, written⟩ :=
    specifier_of_apart given schemaAbsolute outputAbsolute located here apart
  have specified : config.contextSpecifier = .ok validated.contextSpecifier :=
    (GenerationConfig.validate_eq_ok accepted).2.1
  refine ⟨base, target, here, located, ?_⟩
  intro separators
  rw [GenerationConfig.contextSpecifier, written] at specified
  rw [← Except.ok.inj specified, isClean_written, ← isClean_segments, steps]
  simp only [List.forall_mem_append, List.forall_mem_map, List.forall_mem_singleton]

/-- The policy imports the context type by a complete literal exactly when none of the names that
lead from the output directory to the context file has to be escaped. Only the path of the schema
directory can bring a backslash into them. -/
theorem context_imported (accepted : config.validate = .ok validated)
    (present : ∃ b, set.names b ≠ []) (separators : Bool) :
    ∃ base target d, config.outputDirectory.locate? = some base ∧
      config.contextAnchored.locate? = some target ∧ documentFor validated set = some d ∧
      (Imports separators (secondLine d.contents) validated.contextSpecifier ↔
        ∀ name ∈ target.drop (commonLength base target), IsClean separators name) ∧
      ((∀ c ∈ config.contextPath.text.toList, c = '\\' ∨ IsPlain separators c) →
        (config.contextPath.portable.isAbsolute = false →
          IsClean separators config.schemaRoot.text) →
        Imports separators (secondLine d.contents) validated.contextSpecifier) := by
  obtain ⟨base, target, here, located, clean⟩ := specifier_isClean_iff accepted
  obtain ⟨p, specifier, document⟩ := documentFor_eq_some validated present
  have imported : Imports separators (secondLine p.render) validated.contextSpecifier ↔
      ∀ name ∈ target.drop (commonLength base target), IsClean separators name := by
    rw [← clean, ← specifier]
    exact imports_render_iff
  refine ⟨base, target, _, here, located, document, imported, ?_⟩
  intro context root
  apply imported.mpr
  intro name member c inside
  -- Every character of a name comes from one of the two paths.
  have written := Path.mem_of_mem_locate? located (List.mem_of_mem_drop member) inside
  rcases Path.mem_anchoredAt written with rfl | there | ⟨relative, there⟩
  · exact isPlain_added '/' (by decide)
  · rcases Path.mem_portable there with rfl | ⟨given, other⟩
    · exact isPlain_added '/' (by decide)
    · exact (context c given).resolve_left other
  · exact root relative c there

def besideConfig (directory : String) : GenerationConfig :=
  ⟨⟨"/app/" ++ directory ++ "/context.ts"⟩, ⟨"/app/gen"⟩, ⟨"/app"⟩⟩

def oneQuery : OperationSet where
  queries := ["findManyUser"]

theorem names_oneQuery : ∃ b, oneQuery.names b ≠ [] := ⟨.query, by decide⟩

theorem context_imported_spaces :
    ∃ validated d, (besideConfig "my types").validate = .ok validated ∧
      documentFor validated oneQuery = some d ∧
      Imports false (secondLine d.contents) "../my types/context" := by
  have accepted : (besideConfig "my types").validate = .ok
      ⟨⟨"/app/gen/shield.ts"⟩, "../my types/context", ⟨"/app/my types/context.ts"⟩⟩ := by decide
  obtain ⟨base, target, d, -, -, document, -, clean⟩ :=
    context_imported accepted names_oneQuery false
  have absolute : (besideConfig "my types").contextPath.portable.isAbsolute = true := by decide
  refine ⟨_, d, accepted, document, clean ?_ fun relative => ?_⟩
  · intro c member
    have apart : ∀ c ∈ (besideConfig "my types").contextPath.text.toList,
        c ≠ '\x27' ∧ c ≠ '\\' ∧ c ≠ '\n' ∧ c ≠ '\r' :=
      List.all_iff_forall_prop.mp (by decide)
    obtain ⟨quote, backslash, feed, carriage⟩ := apart c member
    exact .inr ⟨quote, backslash, feed, carriage, nofun⟩
  · rw [absolute] at relative
    cases relative

/-- A quote in the name of a directory ends the literal before its end. -/
theorem context_imported_quote :
    ∃ validated d, (besideConfig "it\x27s").validate = .ok validated ∧
      validated.contextSpecifier = "../it\x27s/context" ∧
      documentFor validated oneQuery = some d ∧
      ∀ separators, ¬ Imports separators (secondLine d.contents) "../it\x27s/context" := by
  have accepted : (besideConfig "it\x27s").validate = .ok
      ⟨⟨"/app/gen/shield.ts"⟩, "../it\x27s/context", ⟨"/app/it\x27s/context.ts"⟩⟩ := by decide
  obtain ⟨p, specifier, document⟩ := documentFor_eq_some
    ⟨⟨"/app/gen/shield.ts"⟩, "../it\x27s/context", ⟨"/app/it\x27s/context.ts"⟩⟩ names_oneQuery
  refine ⟨_, _, accepted, rfl, document, ?_⟩
  intro separators imported
  have quoted : '\x27' ∈ "../it\x27s/context".toList := by decide
  have plain : IsClean separators p.specifier := by
    apply imports_render_iff.mp
    rw [specifier]
    exact imported
  rw [specifier] at plain
  exact (plain '\x27' quoted).quote rfl

end Generation

end ShieldPolicy
