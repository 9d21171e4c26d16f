/-!
# Well-formed byte sequences

Bytes are text where they are a row of well-formed sequences, each of which
encodes one character in at most four bytes.  `validLength` says how far the
bytes are text.
-/

namespace EnvAudit

namespace Text

/-- The number of bytes of characters. -/
def byteCount (chars : List Char) : Nat :=
  chars.foldl (fun count c => count + c.utf8Size) 0

/-- The byte continues a sequence. -/
def isContinuation (byte : UInt8) : Bool :=
  0x80 ≤ byte && byte ≤ 0xBF

/-- The least and greatest byte that may stand second after the given one, in a
sequence of more than two bytes. -/
def secondBounds (first : UInt8) : UInt8 × UInt8 :=
  if first = 0xE0 then (0xA0, 0xBF)
  else if first = 0xED then (0x80, 0x9F)
  else if first = 0xF0 then (0x90, 0xBF)
  else if first = 0xF4 then (0x80, 0x8F)
  else (0x80, 0xBF)

/-- The number of bytes of the well-formed sequence at a place, or zero. -/
def sequenceLength (bytes : ByteArray) (i : Nat) : Nat :=
  match bytes[i]?, bytes[i + 1]?, bytes[i + 2]?, bytes[i + 3]? with
  | none, _, _, _ => 0
  | some first, second, third, fourth =>
      let secondFits := second.any fun byte =>
        (secondBounds first).1 ≤ byte && byte ≤ (secondBounds first).2
      if first < 0x80 then
        1
      else if 0xC2 ≤ first && first ≤ 0xDF then
        if second.any isContinuation then 2 else 0
      else if 0xE0 ≤ first && first ≤ 0xEF then
        if secondFits && third.any isContinuation then 3 else 0
      else if 0xF0 ≤ first && first ≤ 0xF4 then
        if secondFits && third.any isContinuation && fourth.any isContinuation then 4 else 0
      else
        0

/-- The end of the well-formed sequences from a place on. -/
def validFrom (bytes : ByteArray) (i : Nat) : Nat :=
  let length := sequenceLength bytes i
  if length = 0 || bytes.size < i + length then i else validFrom bytes (i + length)
termination_by bytes.size - i
decreasing_by
  simp_all
  omega

/-- The number of bytes from the first on that are text. -/
def validLength (bytes : ByteArray) : Nat :=
  validFrom bytes 0

end Text

end EnvAudit
