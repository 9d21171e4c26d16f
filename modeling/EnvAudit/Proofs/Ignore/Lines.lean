import EnvAudit.Ignore.Rules
import EnvAudit.Proofs.Text.Parts

/-!
# Lines of ignore files

A line feed ends a line of an ignore file, with a carriage return in front of it or without one.
A file is cut into lines before its bytes are read as text.  Since no byte of another character
looks like either of the two, the lines are nevertheless those of the text.
-/

namespace EnvAudit

namespace Text

/-- The bytes of characters. -/
def encode (chars : List Char) : List UInt8 :=
  chars.flatMap String.utf8EncodeChar

section Encoding

variable {chars before behind : List Char} {c mark : Char} {byte : UInt8}

theorem encode_append : encode (before ++ behind) = encode before ++ encode behind :=
  List.flatMap_append

theorem encode_cons : encode (c :: chars) = String.utf8EncodeChar c ++ encode chars :=
  List.flatMap_cons

/-- From a place on, the bytes of an array are added behind those read before. -/
theorem toList_loop_of_append {bytes : ByteArray} {first rest : List UInt8}
    (whole : bytes.data.toList = first ++ rest) (read : List UInt8) :
    ByteArray.toList.loop bytes first.length read = read.reverse ++ rest := by
  have size : bytes.size = first.length + rest.length := by
    rw [← ByteArray.size_data, ← Array.length_toList, whole, List.length_append]
  induction rest generalizing first read with
  | nil =>
      rw [ByteArray.toList.loop, if_neg (by simp [size]), List.append_nil]
  | cons byte rest ih =>
      have here : bytes.get! first.length = byte := by
        cases bytes
        simp_all [ByteArray.get!, Array.getElem!_eq_getD, Array.getD_eq_getD_getElem?,
          ← Array.getElem?_toList]
      have rewhole : bytes.data.toList = (first ++ [byte]) ++ rest := by simpa using whole
      have further := ih rewhole (byte :: read)
        (by simpa [Nat.add_comm, Nat.add_left_comm] using size)
      rw [ByteArray.toList.loop, if_pos (by simp [size]), here]
      simpa using further

theorem toList_toUTF8 (text : String) : text.toUTF8.toList = encode text.toList := by
  have whole : text.toUTF8.data.toList = [] ++ encode text.toList := by
    rw [String.toUTF8, ← String.utf8Encode_toList]
    exact List.toList_data_toByteArray
  exact toList_loop_of_append whole []

theorem fromUTF8?_toUTF8 (text : String) : String.fromUTF8? text.toUTF8 = some text := by
  have valid : text.toUTF8.IsValidUTF8 := text.isValidUTF8
  rw [String.fromUTF8?]
  exact dif_pos valid

theorem fromUTF8?_encode (chars : List Char) :
    String.fromUTF8? ⟨(encode chars).toArray⟩ = some (.ofList chars) := by
  have bytes : (⟨(encode chars).toArray⟩ : ByteArray) = (String.ofList chars).toUTF8 := by
    refine ByteArray.ext (Array.toList_inj.mp ?_)
    rw [← List.toList_data_toByteArray (l := encode chars)]
    exact congrArg _ (congrArg _ String.toByteArray_ofList.symm)
  rw [bytes, fromUTF8?_toUTF8]

/-- A byte below 128 stands for a character by itself, and is in no other one. -/
theorem toNat_eq_of_mem_utf8EncodeChar (small : byte < 0x80)
    (member : byte ∈ String.utf8EncodeChar c) : c.toNat = byte.toNat := by
  rw [UInt8.lt_iff_toNat_lt] at small
  rw [String.utf8EncodeChar] at member
  split_ifs at member <;> simp only [List.mem_cons, List.not_mem_nil, or_false] at member
  · rename_i inRange
    rw [member]
    exact (Nat.mod_eq_of_lt (Nat.lt_of_le_of_lt inRange (by decide))).symm
  -- The bytes of a row are 128 or greater.
  · rcases member with rfl | rfl <;> simp at small <;> omega
  · rcases member with rfl | rfl | rfl <;> simp at small <;> omega
  · rcases member with rfl | rfl | rfl | rfl <;> simp at small <;> omega

theorem eq_feed_of_mem (member : 0x0A ∈ String.utf8EncodeChar c) : c = '\n' :=
  Char.toNat_inj.mp (toNat_eq_of_mem_utf8EncodeChar (by decide) member)

theorem eq_return_of_mem (member : 0x0D ∈ String.utf8EncodeChar c) : c = '\r' :=
  Char.toNat_inj.mp (toNat_eq_of_mem_utf8EncodeChar (by decide) member)

end Encoding

end Text

namespace IgnoreFile

/-- A line without the given mark at its end. -/
def withoutLast {α : Type} [DecidableEq α] (mark : α) (line : List α) : List α :=
  if line.getLast? = some mark then line.dropLast else line

/-- The lines of a text.  A carriage return in front of a line feed belongs to the end of the
line, and the last line may have no end. -/
def lines (text : List Char) : List (List Char) :=
  let pieces := Text.splitChars '\n' text
  pieces.dropLast.map (withoutLast '\r') ++ (pieces.getLast?.filter (· ≠ [])).toList

section Lines

variable {text line rest : List Char}

theorem lines_of_free (free : '\n' ∉ line) : lines line = if line = [] then [] else [line] := by
  rw [lines, Text.splitChars_of_free free]
  split <;> simp_all

theorem lines_append_feed (before behind : List Char) : lines (before ++ '\n' :: behind) =
    (Text.splitChars '\n' before).map (withoutLast '\r') ++ lines behind := by
  have nonempty := Text.splitChars_ne_nil '\n' behind
  obtain ⟨last, isLast⟩ := Option.isSome_iff_exists.mp (List.getLast?_isSome.mpr nonempty)
  rw [lines, lines, Text.splitChars_append_separator, List.dropLast_append_of_ne_nil nonempty,
    List.getLast?_append, isLast, Option.some_or, List.map_append, List.append_assoc]

theorem lines_ended (free : '\n' ∉ line) :
    lines (line ++ '\n' :: rest) = withoutLast '\r' line :: lines rest := by
  rw [lines_append_feed, Text.splitChars_of_free free]
  rfl

example : lines "a\r\n\nb\r".toList = [['a'], [], ['b', '\r']] := by decide

theorem lines_append {before behind : List Char}
    (ended : before = [] ∨ before.getLast? = some '\n') :
    lines (before ++ behind) = lines before ++ lines behind := by
  rcases ended with rfl | ended
  · rfl
  · obtain ⟨inner, rfl⟩ := List.getLast?_eq_some_iff.mp ended
    have single := lines_append_feed inner []
    rw [List.append_assoc, List.singleton_append, lines_append_feed, single]
    simp [lines, Text.splitChars]

end Lines

section Bytes

variable {byte : UInt8} {line rest : List UInt8}

theorem withoutLast_cons_cons {α : Type} [DecidableEq α] {mark first next : α} {line : List α} :
    withoutLast mark (first :: next :: line) = first :: withoutLast mark (next :: line) := by
  rw [withoutLast, withoutLast, List.getLast?_cons_cons]
  split <;> rfl

/-- A byte that does not belong to an end of line stands at the beginning of the first line. -/
theorem splitLines_cons (notFeed : 0x0A ≠ byte) (inside : rest.head? ≠ some 0x0A) :
    splitLines (byte :: rest) = match splitLines rest with
      | [] => [[byte]]
      | line :: lines => (byte :: line) :: lines := by
  have noReturn : ¬ (decide (byte = 0x0D) && decide (rest.head? = some 0x0A)) = true := by
    simp [inside]
  exact (if_neg (Ne.symm notFeed)).trans (if_neg noReturn)

theorem splitLines_of_free (free : 0x0A ∉ line) :
    splitLines line = if line = [] then [] else [line] := by
  induction line with
  | nil => rfl
  | cons byte line ih =>
      rw [List.mem_cons, not_or] at free
      have inside : line.head? ≠ some 0x0A := fun first => free.2 (List.mem_of_mem_head? first)
      rw [splitLines_cons free.1 inside, ih free.2]
      cases line <;> rfl

theorem splitLines_ended (free : 0x0A ∉ line) :
    splitLines (line ++ 0x0A :: rest) = withoutLast 0x0D line :: splitLines rest := by
  induction line with
  | nil => rfl
  | cons byte line ih =>
      rw [List.mem_cons, not_or] at free
      have others := ih free.2
      cases line with
      | nil =>
          rw [List.nil_append] at others
          rw [List.singleton_append, splitLines, if_neg (Ne.symm free.1), others]
          by_cases isReturn : byte = 0x0D <;> simp [withoutLast, isReturn]
      | cons next line =>
          have inside : (next :: line ++ 0x0A :: rest).head? ≠ some 0x0A :=
            fun first => free.2 (Option.some.inj first ▸ List.mem_cons_self)
          rw [List.cons_append, splitLines_cons free.1 inside, others, withoutLast_cons_cons]

end Bytes

section Encoding

open Text (encode encode_append encode_cons)

variable {line text : List Char}

theorem free_encode (free : '\n' ∉ line) : 0x0A ∉ encode line := by
  intro member
  obtain ⟨c, inLine, member⟩ := List.mem_flatMap.mp member
  exact free (Text.eq_feed_of_mem member ▸ inLine)

theorem encode_eq_nil : encode line = [] ↔ line = [] := by
  cases line <;> simp [encode]

theorem withoutLast_encode (line : List Char) :
    withoutLast 0x0D (encode line) = encode (withoutLast '\r' line) := by
  rcases List.eq_nil_or_concat line with rfl | ⟨before, c, rfl⟩
  · rfl
  · rw [List.concat_eq_append, encode_append, withoutLast, withoutLast, List.getLast?_concat]
    by_cases isReturn : c = '\r'
    · have single : encode ['\r'] = [0x0D] := rfl
      rw [isReturn, single]
      simp
    · have other : (encode before ++ encode [c]).getLast? ≠ some 0x0D := by
        intro last
        have nonempty : encode [c] ≠ [] := by simp [encode_eq_nil]
        rw [List.getLast?_append_of_ne_nil _ nonempty] at last
        have member := List.mem_of_mem_getLast? last
        exact isReturn (Text.eq_return_of_mem (by simpa [encode] using member))
      rw [if_neg other, if_neg (by simpa using isReturn), encode_append]

/-- The bytes of a text are cut where the text has its lines. -/
theorem splitLines_encode (text : List Char) :
    splitLines (encode text) = (lines text).map encode := by
  by_cases more : '\n' ∈ text
  · obtain ⟨line, rest, rfl, free⟩ := List.eq_append_cons_of_mem more
    have bytes : encode (line ++ '\n' :: rest) = encode line ++ 0x0A :: encode rest := by
      rw [encode_append, encode_cons]
      rfl
    rw [bytes, splitLines_ended (free_encode free), lines_ended free, List.map_cons,
      withoutLast_encode, splitLines_encode rest]
  · rw [splitLines_of_free (free_encode more), lines_of_free more]
    simp only [encode_eq_nil]
    split <;> rfl
termination_by text.length
decreasing_by simp_all; omega

theorem decodeLine_encode (line : List Char) : decodeLine (encode line) = some line := by
  rw [decodeLine, Text.fromUTF8?_encode, Option.map_some, String.toList_ofList]

end Encoding

end IgnoreFile

end EnvAudit
