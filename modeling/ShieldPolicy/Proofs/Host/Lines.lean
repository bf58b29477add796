import ShieldPolicy.Host.Session
import ShieldPolicy.Proofs.Text.Pieces
import Mathlib.Data.List.TakeWhile

/-!
The lines of a text. `Session.lines` cuts a text as `LinesOf` describes it, and these are the lines
that are read of its bytes: `Input.lines_ofText`.
-/

namespace ShieldPolicy

namespace Text

variable {cs : List Char}

theorem dropBlank_eq_nil_iff : dropBlank cs = [] ↔ ∀ c ∈ cs, isBlank c = true := by
  rw [dropBlank, List.dropWhile_eq_nil_iff]

theorem trimChars_isEmpty_iff (s : String) : (trimChars s.toList).isEmpty ↔ IsBlank s := by
  rw [trimChars, List.isEmpty_reverse, List.isEmpty_iff, dropBlank_eq_nil_iff]
  simp only [List.mem_reverse]
  constructor
  · intro rest c member
    rw [← List.takeWhile_append_dropWhile (p := isBlank) (l := s.toList)] at member
    rcases List.mem_append.mp member with front | behind
    · exact List.mem_takeWhile_imp front
    · exact rest c behind
  · intro blank c member
    exact blank c ((List.dropWhile_suffix isBlank).subset member)

end Text

/-- The lines of a text. Each is ended by a line feed, which a carriage return may precede; the last
one need not be ended. -/
inductive LinesOf : List Char → List (List Char) → Prop where
  | nil : LinesOf [] []
  | last {line : List Char} (some : line ≠ []) (whole : '\n' ∉ line) : LinesOf line [line]
  | feed {line rest : List Char} {lines : List (List Char)} (whole : '\n' ∉ line)
      (bare : line.getLast? ≠ some '\r') (others : LinesOf rest lines) :
      LinesOf (line ++ '\n' :: rest) (line :: lines)
  | return {line rest : List Char} {lines : List (List Char)} (whole : '\n' ∉ line)
      (others : LinesOf rest lines) : LinesOf (line ++ '\r' :: '\n' :: rest) (line :: lines)

namespace Session

open Input

def lines (text : String) : List String :=
  let pieces := Text.splitOn '\n' text.toList
  let ended := pieces.dropLast.map dropReturn
  let last := (pieces.getLast?.filter fun piece => !piece.isEmpty).toList
  (ended ++ last).map String.ofList

theorem linesOf_pieces {pieces : List (List Char)} (some : pieces ≠ [])
    (whole : ∀ piece ∈ pieces, '\n' ∉ piece) :
    LinesOf (Text.joinWith '\n' pieces) (pieces.dropLast.map dropReturn ++
      (pieces.getLast?.filter fun piece => !piece.isEmpty).toList) := by
  induction pieces with
  | nil => exact absurd rfl some
  | cons piece rest ih =>
    have here := whole piece List.mem_cons_self
    cases rest with
    | nil =>
      cases piece with
      | nil => exact .nil
      | cons c cs => exact .last (List.cons_ne_nil c cs) here
    | cons next rest =>
      have others := ih (List.cons_ne_nil next rest) fun other member =>
        whole other (List.mem_cons_of_mem _ member)
      rw [List.dropLast_cons_cons, List.map_cons, List.cons_append, List.getLast?_cons_cons,
        Text.joinWith]
      · cases cut : Text.dropEnd? ['\r'] piece with
        | none =>
          rw [dropReturn, cut]
          refine .feed here ?_ others
          intro ends
          obtain ⟨front, same⟩ := List.getLast?_eq_some_iff.mp ends
          rw [Text.dropEnd?_eq_some_iff.mpr same] at cut
          cases cut
        | some line =>
          obtain rfl := Text.dropEnd?_eq_some_iff.mp cut
          rw [dropReturn, cut, List.append_assoc]
          exact .return (fun wrong => here (List.mem_append_left _ wrong)) others
      · exact List.cons_ne_nil next rest

theorem lines_spec (input : String) :
    LinesOf input.toList ((lines input).map String.toList) := by
  have cut := linesOf_pieces (Text.splitOn_ne_nil '\n' input.toList)
    fun piece member => Text.not_mem_of_mem_splitOn member
  rw [Text.joinWith_splitOn] at cut
  have texts (pieces : List (List Char)) : (pieces.map String.ofList).map String.toList = pieces := by
    simp [Function.comp_def]
  rw [lines, texts]
  exact cut

end Session

/-! ### Bytes -/

namespace Input

def encode (cs : List Char) : List UInt8 := cs.flatMap String.utf8EncodeChar

theorem bytes_ofText (text : String) : (ofText text).bytes = encode text.toList := by
  have encoded : text.toByteArray = text.toList.utf8Encode := by
    rw [← String.toByteArray_ofList, String.ofList_toList]
  rw [ofText, String.toUTF8_eq_toByteArray, encoded, List.utf8Encode, List.data_toByteArray]
  rfl

theorem decode_encode (cs : List Char) : decode (encode cs) = .ok (String.ofList cs) := by
  have encoded : (⟨(encode cs).toArray⟩ : ByteArray) = (String.ofList cs).toByteArray := by
    rw [String.toByteArray_ofList, List.utf8Encode]
    apply ByteArray.ext
    rw [List.data_toByteArray]
    rfl
  rw [decode, encoded, String.fromUTF8?, dif_pos (String.ofList cs).isValidUTF8]
  rfl

theorem isEmpty_encode (cs : List Char) : (encode cs).isEmpty = cs.isEmpty := by
  cases cs with
  | nil => rfl
  | cons c cs =>
    have some : String.utf8EncodeChar c ≠ [] := by
      rw [← List.length_pos_iff, String.length_utf8EncodeChar]
      exact c.utf8Size_pos
    simp [encode, some]

theorem eq_of_mem_utf8EncodeChar {c : Char} (member : 10 ∈ String.utf8EncodeChar c) : c = '\n' := by
  have byte {n : Nat} (same : 10 = UInt8.ofNat n) : n % 256 = 10 := by
    simpa using (congrArg UInt8.toNat same).symm
  unfold String.utf8EncodeChar at member
  dsimp only at member
  split at member
  · have same := byte (List.mem_singleton.mp member)
    have value : c.val.toNat = 10 := by omega
    exact Char.ext (UInt32.toNat_inj.mp value)
  · -- The bytes of any other character have a high bit.
    exfalso
    split at member
    · simp only [List.mem_cons, List.not_mem_nil, or_false] at member
      rcases member with same | same <;> have same := byte same <;> omega
    split at member <;> simp only [List.mem_cons, List.not_mem_nil, or_false] at member
    · rcases member with same | same | same <;> have same := byte same <;> omega
    · rcases member with same | same | same | same <;> have same := byte same <;> omega

theorem splitOn_encode (cs : List Char) :
    Text.splitOn 10 (encode cs) = (Text.splitOn '\n' cs).map encode := by
  have once : String.utf8EncodeChar '\n' = [10] := by decide
  have joined := congrArg encode (Text.joinWith_splitOn '\n' cs)
  rw [encode, Text.flatMap_joinWith once] at joined
  rw [← joined]
  refine Text.splitOn_joinWith (by simpa using Text.splitOn_ne_nil '\n' cs) fun piece member => ?_
  obtain ⟨piece, whole, rfl⟩ := List.mem_map.mp member
  intro wrong
  obtain ⟨c, inside, feed⟩ := List.mem_flatMap.mp wrong
  exact Text.not_mem_of_mem_splitOn whole (eq_of_mem_utf8EncodeChar feed ▸ inside)

theorem endedLine_encode (cs : List Char) :
    endedLine (encode cs) = .ok (String.ofList (dropReturn cs)) := by
  rw [endedLine, decode_encode]
  exact congrArg (fun cs => Except.ok (String.ofList (dropReturn cs))) String.toList_ofList

/-- What is written as text can be read, line by line. -/
theorem lines_ofText (text : String) : (ofText text).lines = (Session.lines text).map .ok := by
  have fault : (ofText text).fault = none := rfl
  unfold lines Session.lines
  rw [fault, bytes_ofText, splitOn_encode]
  generalize Text.splitOn '\n' text.toList = pieces
  have ended : (pieces.map encode).dropLast.map endedLine =
      pieces.dropLast.map fun piece => .ok (String.ofList (dropReturn piece)) := by
    rw [← List.map_dropLast, List.map_map]
    exact List.map_congr_left fun piece _ => endedLine_encode piece
  have last : (((pieces.map encode).getLast?.filter fun piece => !piece.isEmpty).map decode).toList =
      (pieces.getLast?.filter fun piece => !piece.isEmpty).toList.map fun piece =>
        .ok (String.ofList piece) := by
    rw [List.getLast?_map]
    cases pieces.getLast? with
    | none => rfl
    | some piece =>
      simp only [Option.map_some, Option.filter_some, isEmpty_encode]
      split
      · exact congrArg (fun line => [line]) (decode_encode piece)
      · rfl
  simp only [ended, last, List.map_append, List.map_map]
  rfl

/-- The lines that are heard: all of them, or those before the first that cannot be read. -/
inductive Heard (read : List (Except FileFault String)) (asked : List String) :
    Except FileFault Unit → Prop where
  | whole (all : read = asked.map .ok) : Heard read asked (.ok ())
  | broken {fault : FileFault} {rest : List (Except FileFault String)}
      (front : read = asked.map .ok ++ .error fault :: rest) : Heard read asked (.error fault)

theorem Heard.cons {read : List (Except FileFault String)} {asked : List String}
    {r : Except FileFault Unit} (heard : Heard read asked r) (line : String) :
    Heard (.ok line :: read) (line :: asked) r := by
  cases heard with
  | whole all => exact .whole (congrArg (.ok line :: ·) all)
  | broken front => exact .broken (congrArg (.ok line :: ·) front)

theorem Heard.of_text {text : String} {asked : List String} {r : Except FileFault Unit}
    (heard : Heard (ofText text).lines asked r) : asked = Session.lines text ∧ r = .ok () := by
  rw [lines_ofText] at heard
  cases heard with
  | whole all => exact ⟨((List.map_inj_right fun _ _ => Except.ok.inj).mp all).symm, rfl⟩
  | @broken fault rest front =>
    have wrong : .error fault ∈ (Session.lines text).map Except.ok :=
      front ▸ List.mem_append_right _ List.mem_cons_self
    obtain ⟨line, -, same⟩ := List.mem_map.mp wrong
    cases same

end Input

end ShieldPolicy
