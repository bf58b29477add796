/-!
# Cutting and joining

`splitOn` cuts a list at every separator and `joinWith` puts the pieces back:
`joinWith_splitOn` says that nothing is lost.
-/

namespace ShieldPolicy.Text

/-- The pieces between the separators, empty ones included; there is always one. -/
def splitOn {α : Type} [DecidableEq α] (sep : α) : List α → List (List α)
  | [] => [[]]
  | c :: cs =>
    if c = sep then [] :: splitOn sep cs
    else match splitOn sep cs with
      | [] => [[c]]
      | piece :: pieces => (c :: piece) :: pieces

def joinWith {α : Type} (sep : α) : List (List α) → List α
  | [] => []
  | [piece] => piece
  | piece :: pieces => piece ++ sep :: joinWith sep pieces

theorem splitOn_ne_nil {α : Type} [DecidableEq α] (sep : α) (cs : List α) :
    splitOn sep cs ≠ [] := by
  cases cs with
  | nil => simp [splitOn]
  | cons c cs =>
    unfold splitOn
    split
    · simp
    · split <;> simp

theorem joinWith_splitOn {α : Type} [DecidableEq α] (sep : α) (cs : List α) :
    joinWith sep (splitOn sep cs) = cs := by
  induction cs with
  | nil => rfl
  | cons c cs ih =>
    unfold splitOn
    split
    · rename_i h
      subst h
      cases hs : splitOn c cs with
      | nil => exact absurd hs (splitOn_ne_nil c cs)
      | cons p ps => rw [hs] at ih; simp [joinWith, ih]
    · cases hs : splitOn sep cs with
      | nil => exact absurd hs (splitOn_ne_nil sep cs)
      | cons p ps =>
        rw [hs] at ih
        cases ps with
        | nil => simpa [joinWith] using ih
        | cons q qs => simp only [joinWith, List.cons_append]; exact congrArg (c :: ·) ih

def joinTexts (sep : String) : List String → String
  | [] => ""
  | [s] => s
  | s :: rest => s ++ sep ++ joinTexts sep rest

def dropEnd? {α : Type} [DecidableEq α] (tail : List α) (cs : List α) : Option (List α) :=
  if tail.isSuffixOf cs then some (cs.take (cs.length - tail.length)) else none

def dropStart? {α : Type} [DecidableEq α] (head : List α) (cs : List α) : Option (List α) :=
  if head.isPrefixOf cs then some (cs.drop head.length) else none

end ShieldPolicy.Text
