import ShieldPolicy.Policy.Reader
import ShieldPolicy.Proofs.Text.Pieces

/-!
Reading a policy back: `read?_render`. Names need no quotes as long as they hold no line break.
-/

namespace ShieldPolicy.Policy

variable {p : Policy} {s : PolicySection} {b : Bucket} {name : String}

/-! ### Lines -/

theorem linesOf?_join {lines : List String} (unbroken : ∀ line ∈ lines, '\n' ∉ line.toList) :
    linesOf? (String.join (lines.map fun line => line ++ "\n")) = some (lines.map String.toList) := by
  have whole : (String.join (lines.map fun line => line ++ "\n")).toList =
      (lines.map String.toList).flatMap fun line => line ++ ['\n'] := by
    simp [List.flatMap_map]
  have cut : Text.splitOn '\n' (String.join (lines.map fun line => line ++ "\n")).toList =
      lines.map String.toList ++ [[]] := by
    rw [whole]
    refine Text.splitOn_lines fun line member => ?_
    obtain ⟨text, there, rfl⟩ := List.mem_map.mp member
    exact unbroken text there
  rw [linesOf?, cut]
  simp

theorem nameOf?_nameLine (name : String) :
    nameOf? (PolicySection.nameLine name).toList = some name := by
  have line : (PolicySection.nameLine name).toList =
      "    ".toList ++ (name.toList ++ ": allow,".toList) := by
    simp [PolicySection.nameLine]
  rw [nameOf?, between?, line, Text.dropStart?_append, Option.bind_some, Text.dropEnd?_append]
  simp

theorem bucketOf?_openLine (b : Bucket) : bucketOf? (PolicySection.openLine b).toList = some b := by
  cases b <;> decide

theorem nameLine_ne_closeLine (name : String) :
    (PolicySection.nameLine name).toList ≠ "  \x7d,".toList := by
  intro same
  simp [PolicySection.nameLine] at same

theorem openLine_ne_closeLine (b : Bucket) :
    (PolicySection.openLine b).toList ≠ "\x7d);".toList := by
  cases b <;> decide

/-! ### Sections -/

theorem readSections_names {names before : List String} {rest : List (List Char)} :
    readSections (names.map (fun name => (PolicySection.nameLine name).toList) ++
        PolicySection.closeLine.toList :: rest) (some (b, before)) =
      (readSections rest none).map fun sections => ⟨b, before.reverse ++ names⟩ :: sections := by
  induction names generalizing before with
  | nil =>
    have closed : PolicySection.closeLine.toList = "  \x7d,".toList := rfl
    rw [List.map_nil, List.nil_append, readSections, if_pos closed, List.append_nil]
    cases readSections rest none <;> rfl
  | cons name names ih =>
    simp only [List.map_cons, List.cons_append, readSections, if_neg (nameLine_ne_closeLine name),
      nameOf?_nameLine]
    rw [Option.bind_eq_bind, Option.bind_some, ih]
    simp

theorem readSections_sections (sections : List PolicySection) :
    readSections ((sections.flatMap PolicySection.lines ++ [closeLine]).map String.toList) none =
      some sections := by
  induction sections with
  | nil => rfl
  | cons s rest ih =>
    have split : ((s :: rest).flatMap PolicySection.lines ++ [closeLine]).map String.toList =
        (PolicySection.openLine s.bucket).toList ::
          (s.names.map (fun name => (PolicySection.nameLine name).toList) ++
            PolicySection.closeLine.toList ::
              (rest.flatMap PolicySection.lines ++ [closeLine]).map String.toList) := by
      simp [PolicySection.lines, Function.comp_def]
    rw [split, readSections, if_neg (openLine_ne_closeLine s.bucket), bucketOf?_openLine,
      Option.bind_eq_bind, Option.bind_some, readSections_names, ih]
    rfl

/-! ### Policies -/

def contextPrefix : String := "import \x7b Context \x7d from '"

theorem contextImport_eq (specifier : String) :
    contextImport specifier = contextPrefix ++ specifier ++ "';" := rfl

theorem toList_contextImport (specifier : String) : (contextImport specifier).toList =
    contextPrefix.toList ++ (specifier.toList ++ "';".toList) := by
  rw [contextImport_eq, String.toList_append, String.toList_append, List.append_assoc]

theorem between?_contextImport (specifier : String) :
    between? contextPrefix.toList "';".toList (contextImport specifier).toList =
      some specifier.toList := by
  rw [toList_contextImport, between?, Text.dropStart?_append, Option.bind_some,
    Text.dropEnd?_append]

theorem newline_not_mem_rulesImport : '\n' ∉ rulesImport.toList := by decide

theorem newline_not_mem_contextPrefix : '\n' ∉ contextPrefix.toList := by decide

theorem newline_not_mem_openLine : '\n' ∉ openLine.toList := by decide

theorem newline_not_mem_section {s : PolicySection} (names : ∀ name ∈ s.names, '\n' ∉ name.toList) :
    ∀ line ∈ s.lines, '\n' ∉ line.toList := by
  intro line member
  simp only [PolicySection.lines, List.mem_append, List.mem_cons, List.mem_map,
    List.not_mem_nil, or_false] at member
  rcases member with (rfl | ⟨name, named, rfl⟩) | rfl
  · cases s.bucket <;> decide
  · simpa [PolicySection.nameLine] using names name named
  · decide

theorem newline_not_mem_lines (specifier : '\n' ∉ p.specifier.toList)
    (names : ∀ s ∈ p.sections, ∀ name ∈ s.names, '\n' ∉ name.toList) :
    ∀ line ∈ p.lines, '\n' ∉ line.toList := by
  intro line member
  simp only [lines, List.mem_append, List.mem_cons, List.not_mem_nil, or_false,
    List.mem_flatMap] at member
  rcases member with ((rfl | rfl | rfl | rfl) | ⟨s, there, member⟩) | rfl
  · exact newline_not_mem_rulesImport
  · rw [toList_contextImport]
    simpa using ⟨newline_not_mem_contextPrefix, specifier⟩
  · decide
  · exact newline_not_mem_openLine
  · exact newline_not_mem_section (names s there) line member
  · decide

/-- A policy is read back from its text. -/
theorem read?_render (specifier : '\n' ∉ p.specifier.toList)
    (names : ∀ s ∈ p.sections, ∀ name ∈ s.names, '\n' ∉ name.toList) :
    read? p.render = some p := by
  have context := between?_contextImport p.specifier
  rw [contextPrefix] at context
  rw [read?, render, linesOf?_join (newline_not_mem_lines specifier names)]
  simp only [lines, List.cons_append, List.nil_append, List.map_cons, Option.bind_eq_bind,
    Option.bind_some]
  rw [if_pos ⟨rfl, rfl, rfl⟩, context, Option.bind_some, readSections_sections, Option.bind_some,
    String.ofList_toList]
  rfl

end ShieldPolicy.Policy
