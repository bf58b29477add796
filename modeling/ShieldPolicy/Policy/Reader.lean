import ShieldPolicy.Policy

/-!
# Reading a policy back

Names stand in a policy as they are, without quotes. A line is told by its indent and its first
character alone, so the text of a policy can be read back whatever its names are, as long as they
hold no line break.
-/

namespace ShieldPolicy.Policy

/-- The lines of a text in which every line is ended by a line break. -/
def linesOf? (text : String) : Option (List (List Char)) :=
  match (Text.splitOn '\n' text.toList).reverse with
  | [] :: lines => some lines.reverse
  | _ => none

def between? (before after line : List Char) : Option (List Char) :=
  (Text.dropStart? before line).bind (Text.dropEnd? after)

def nameOf? (line : List Char) : Option String :=
  (between? "    ".toList ": allow,".toList line).map String.ofList

def bucketOf? (line : List Char) : Option Bucket :=
  if line = "  query: \x7b".toList then some .query
  else if line = "  mutation: \x7b".toList then some .mutation
  else if line = "  subscription: \x7b".toList then some .subscription
  else none

/-- Reads lines into sections up to the line that closes the policy; `current` is the section being
read, its names nearest first. -/
def readSections : List (List Char) → (current : Option (Bucket × List String)) →
    Option (List PolicySection)
  | [], _ => none
  | line :: rest, none =>
    if line = "\x7d);".toList then if rest.isEmpty then some [] else none
    else do
      let b ← bucketOf? line
      readSections rest (some (b, []))
  | line :: rest, some (b, names) =>
    if line = "  \x7d,".toList then do
      let sections ← readSections rest none
      return ⟨b, names.reverse⟩ :: sections
    else do
      let name ← nameOf? line
      readSections rest (some (b, name :: names))

def read? (text : String) : Option Policy := do
  match ← linesOf? text with
  | first :: second :: third :: fourth :: rest =>
    if first = "import \x7b shield, allow \x7d from 'trpc-shield';".toList ∧ third = [] ∧
        fourth = "export const permissions = shield<Context>(\x7b".toList then
      let specifier ← between? "import \x7b Context \x7d from '".toList "';".toList second
      let sections ← readSections rest none
      return ⟨String.ofList specifier, sections⟩
    else none
  | _ => none

end ShieldPolicy.Policy
