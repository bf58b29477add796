import Mathlib.Data.List.DropRight
import ShieldPolicy.Proofs.Provider

/-!
Identities that are printed and read again. An identity with a version is always read back; one
without is read back when its name can stand for itself: `Provider.display_survives`.
-/

namespace ShieldPolicy

namespace Text

variable {cs : List Char}

theorem trimChars_eq_rdropWhile (cs : List Char) :
    trimChars cs = (cs.dropWhile isBlank).rdropWhile isBlank := rfl

theorem dropWhile_of_solid (first : ∀ c ∈ cs.head?, isBlank c = false) :
    cs.dropWhile isBlank = cs := by
  cases cs with
  | nil => rfl
  | cons c cs => exact List.dropWhile_cons_of_neg (by simp [first c rfl])

theorem trimChars_of_solid (first : ∀ c ∈ cs.head?, isBlank c = false)
    (last : ∀ c ∈ cs.getLast?, isBlank c = false) : trimChars cs = cs := by
  rw [trimChars_eq_rdropWhile, dropWhile_of_solid first, List.rdropWhile_eq_self_iff]
  intro present
  simp [last _ (List.getLast?_eq_some_getLast present)]

theorem trimChars_ne_nil (present : cs ≠ []) (first : ∀ c ∈ cs.head?, isBlank c = false) :
    trimChars cs ≠ [] := by
  rw [trimChars_eq_rdropWhile, dropWhile_of_solid first, ne_eq, List.rdropWhile_eq_nil_iff]
  intro blank
  cases cs with
  | nil => exact present rfl
  | cons c cs => simp [first c rfl] at blank

theorem trimChars_last (cs : List Char) : ∀ c ∈ (trimChars cs).getLast?, isBlank c = false := by
  intro c last
  have present : trimChars cs ≠ [] := by
    intro none
    simp [none] at last
  rw [List.getLast?_eq_some_getLast present, Option.mem_some_iff] at last
  subst last
  have solid : ¬ isBlank ((trimChars cs).getLast present) :=
    List.rdropWhile_last_not isBlank (cs.dropWhile isBlank) present
  simpa using solid

theorem trimChars_begins (cs : List Char) : trimChars cs <+: cs.dropWhile isBlank :=
  List.rdropWhile_prefix isBlank _

theorem length_trimChars_le (cs : List Char) : (trimChars cs).length ≤ cs.length :=
  (trimChars_begins cs).length_le.trans (List.dropWhile_suffix isBlank).length_le

theorem trimChars_first (cs : List Char) : ∀ c ∈ (trimChars cs).head?, isBlank c = false := by
  intro c first
  -- Trimming at the end leaves the first character where it is.
  have first' : (cs.dropWhile isBlank).head? = some c := by
    obtain ⟨rest, whole⟩ := trimChars_begins cs
    rw [← whole, List.head?_append, Option.mem_def.mp first]
    rfl
  have solid := List.head?_dropWhile_not isBlank cs
  rw [first'] at solid
  simpa using solid

end Text

namespace Provider

open Text

variable {cs before after : List Char} {identity : String} {p : Provider}

/-! ### The last `@` -/

theorem cutAtLast_eq_none (absent : '@' ∉ cs) : cutAtLast cs = none := by
  rw [cutAtLast, splitOn_of_not_mem absent]
  rfl

theorem exists_last_at (present : '@' ∈ cs) :
    ∃ before after, cs = before ++ '@' :: after ∧ '@' ∉ after := by
  obtain ⟨after, before, whole, absent⟩ :=
    List.eq_append_cons_of_mem (List.mem_reverse.mpr present)
  refine ⟨before.reverse, after.reverse, ?_, by simpa using absent⟩
  rw [← cs.reverse_reverse, whole]
  simp

/-- What an identity is read as. A version that is empty is dropped with its `@`. -/
inductive Reads (cs : List Char) : Provider → Prop where
  | whole (present : cs ≠ []) (bare : '@' ∉ cs.tail) : Reads cs ⟨String.ofList cs, none⟩
  | versioned {name version : List Char} (text : cs = name ++ '@' :: version) (named : name ≠ [])
      (given : version ≠ []) (last : '@' ∉ version) :
      Reads cs ⟨String.ofList name, some (String.ofList version)⟩
  | dropped {name : List Char} (text : cs = name ++ ['@']) (named : name ≠ []) :
      Reads cs ⟨String.ofList name, none⟩

theorem parse_of_reads (reads : Reads (trimChars identity.toList) p) : parse identity = .ok p := by
  unfold parse
  cases reads with
  | whole present bare =>
    by_cases at_ : '@' ∈ trimChars identity.toList
    · -- The only `@` comes first, so it opens a scope.
      obtain ⟨before, after, whole, last⟩ := exists_last_at at_
      cases before with
      | nil =>
        have cut : cutAtLast ([] ++ '@' :: after) = some ([], after) :=
          cutAtLast_append last
        rw [List.nil_append] at whole cut
        simp [whole, cut]
      | cons c before => simp [whole] at bare
    · simp [cutAtLast_eq_none at_, present]
  | versioned text named given last => simp [text, cutAtLast_append last, named, given]
  | @dropped name text named =>
    have cut : cutAtLast (name ++ ['@']) = some (name, []) := cutAtLast_append List.not_mem_nil
    simp [text, cut, named]

theorem exists_reads (present : cs ≠ []) : ∃ p, Reads cs p := by
  by_cases bare : '@' ∈ cs.tail
  · obtain ⟨before, after, whole, last⟩ := exists_last_at (List.mem_of_mem_tail bare)
    have named : before ≠ [] := by
      rintro rfl
      simp [whole, last] at bare
    by_cases given : after = []
    · subst given
      exact ⟨_, .dropped whole named⟩
    · exact ⟨_, .versioned whole named given last⟩
  · exact ⟨_, .whole present bare⟩

theorem reads_of_parse (read : parse identity = .ok p) : Reads (trimChars identity.toList) p := by
  have present : trimChars identity.toList ≠ [] := by
    intro none
    simp [parse, none, cutAtLast_eq_none] at read
  obtain ⟨q, reads⟩ := exists_reads present
  have other := parse_of_reads reads
  rw [read] at other
  cases other
  exact reads

/-! ### Printed identities -/

/-- Whether a name that is printed without a version is taken for a name again. -/
def StandsAlone (name : String) : Prop :=
  '@' ∉ name.toList.tail ∧ ∀ c ∈ name.toList.getLast?, isBlank c = false

theorem parse_standsAlone {name : List Char} (named : name ≠ [])
    (first : ∀ c ∈ name.head?, isBlank c = false) (alone : StandsAlone (String.ofList name)) :
    parse (String.ofList name) = .ok ⟨String.ofList name, none⟩ := by
  obtain ⟨bare, last⟩ := alone
  rw [String.toList_ofList] at bare last
  apply parse_of_reads
  rw [String.toList_ofList, trimChars_of_solid first last]
  exact .whole named bare

theorem standsAlone_of_parse {name : List Char}
    (read : parse (String.ofList name) = .ok ⟨String.ofList name, none⟩) :
    StandsAlone (String.ofList name) := by
  have reads := reads_of_parse read
  rw [String.toList_ofList] at reads
  have solid := trimChars_last name
  have short := length_trimChars_le name
  generalize trimChars name = cs at reads solid short
  generalize same : (⟨String.ofList name, none⟩ : Provider) = q at reads
  cases reads with
  | whole present bare =>
    have same := String.ofList_inj.mp (Provider.mk.inj same).1
    subst same
    exact ⟨by simpa using bare, by simpa using solid⟩
  | versioned => cases (Provider.mk.inj same).2
  | dropped text =>
    -- The text that is read is longer than the name that it would have to give.
    have same := String.ofList_inj.mp (Provider.mk.inj same).1
    subst same
    rw [text, List.length_append, List.length_singleton] at short
    omega

theorem toList_display_versioned (name version : List Char) :
    (display ⟨String.ofList name, some (String.ofList version)⟩).toList =
      name ++ '@' :: version := by
  simp [display]

theorem head?_of_append {name rest : List Char}
    (first : ∀ c ∈ (name ++ rest).head?, isBlank c = false) :
    ∀ c ∈ name.head?, isBlank c = false := by
  intro c head
  apply first
  rw [Option.mem_def, List.head?_append, Option.mem_def.mp head]
  rfl

/-- An identity that was read is read again from its text. It is the same one exactly when it has a
version or its name stands alone, which only fails where an `@` ends the text. -/
theorem display_survives (read : parse identity = .ok p) :
    (∃ q, parse p.display = .ok q) ∧
    (parse p.display = .ok p ↔ (p.version = none → StandsAlone p.name)) ∧
    ((trimChars identity.toList).getLast? ≠ some '@' → parse p.display = .ok p) := by
  have first := trimChars_first identity.toList
  have last := trimChars_last identity.toList
  have reads := reads_of_parse read
  generalize trimChars identity.toList = cs at first last reads
  cases reads with
  | whole present bare =>
    have alone : StandsAlone (String.ofList cs) := by
      exact ⟨by simpa using bare, by simpa using last⟩
    have again := parse_standsAlone present first alone
    exact ⟨⟨_, again⟩, iff_of_true again fun _ => alone, fun _ => again⟩
  | @versioned name version text named given at_ =>
    subst text
    have again : parse (display ⟨String.ofList name, some (String.ofList version)⟩) =
        .ok ⟨String.ofList name, some (String.ofList version)⟩ := by
      apply parse_of_reads
      rw [toList_display_versioned, trimChars_of_solid first last]
      exact .versioned rfl named given at_
    exact ⟨⟨_, again⟩, iff_of_true again nofun, fun _ => again⟩
  | @dropped name text named =>
    subst text
    have solid := head?_of_append first
    refine ⟨?_, ⟨fun again _ => standsAlone_of_parse again, fun alone => ?_⟩, fun other => ?_⟩
    · have left := trimChars_ne_nil named solid
      obtain ⟨q, reads⟩ := exists_reads left
      refine ⟨q, parse_of_reads ?_⟩
      show Reads (trimChars (String.ofList name).toList) q
      rwa [String.toList_ofList]
    · exact parse_standsAlone named solid (alone rfl)
    · simp at other

theorem display_survives_scoped :
    parse " @acme/client@^5.0\t" = .ok ⟨"@acme/client", some "^5.0"⟩ ∧
      parse (display ⟨"@acme/client", some "^5.0"⟩) = .ok ⟨"@acme/client", some "^5.0"⟩ := by
  have read : parse " @acme/client@^5.0\t" = .ok ⟨"@acme/client", some "^5.0"⟩ := by decide
  exact ⟨read, (display_survives read).2.2 (by decide)⟩

/-- Once an empty version is dropped, what stands before it is printed alone and may hold a version
of its own. -/
theorem display_loses_dropped :
    parse "prisma-client-js@5@" = .ok ⟨"prisma-client-js@5", none⟩ ∧
      display ⟨"prisma-client-js@5", none⟩ = "prisma-client-js@5" ∧
      parse "prisma-client-js@5" = .ok ⟨"prisma-client-js", some "5"⟩ ∧
      (⟨"prisma-client-js@5", none⟩ : Provider) ≠ ⟨"prisma-client-js", some "5"⟩ := by
  decide

end Provider

end ShieldPolicy
