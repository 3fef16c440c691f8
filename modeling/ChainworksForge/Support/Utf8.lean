import ChainworksForge.Support.Text

/-!
# Bytes and texts

The UTF-8 bytes of a text, the strict reading of bytes, which fails where they are no
text, and the lossy reading, which puts a replacement character in the place of every
broken sequence.  Both readings give back a text from its bytes.
-/

namespace ChainworksForge.Support.Text

/-- The UTF-8 encoding of a text. -/
def utf8Bytes (t : Text) : List UInt8 :=
  t.flatMap String.utf8EncodeChar

/-- The text that the bytes encode. -/
def fromUtf8 (bytes : List UInt8) : Option Text :=
  bytes.toByteArray.utf8Decode?.map Array.toList

/-- The character that stands in for bytes that encode nothing. -/
def replacementChar : Char := Char.ofNat 0xFFFD

/-- The length of a broken sequence: the bytes that could begin a character. -/
def brokenLength : List UInt8 → Nat
  | first :: second :: rest =>
      let isTail (b : UInt8) : Bool := 0x80 ≤ b && b ≤ 0xBF
      let continues : Bool :=
        if first = 0xE0 then 0xA0 ≤ second && second ≤ 0xBF
        else if first = 0xED then 0x80 ≤ second && second ≤ 0x9F
        else if first = 0xF0 then 0x90 ≤ second && second ≤ 0xBF
        else if first = 0xF4 then 0x80 ≤ second && second ≤ 0x8F
        else (0xE1 ≤ first && first ≤ 0xF3) && isTail second
      if continues then
        if 0xF0 ≤ first && rest.head?.any isTail then 3 else 2
      else 1
  | _ => 1

/-- Read bytes from left to right; `skip` counts the bytes left of a sequence. -/
def fromUtf8LossyLoop : Nat → List UInt8 → Text
  | _, [] => []
  | skip + 1, _ :: rest => fromUtf8LossyLoop skip rest
  | 0, b :: rest =>
      match (b :: rest).toByteArray.utf8DecodeChar? 0 with
      | some c => c :: fromUtf8LossyLoop (c.utf8Size - 1) rest
      | none =>
          replacementChar :: fromUtf8LossyLoop (brokenLength (b :: rest) - 1) rest

/-- The text of the bytes, with every broken sequence replaced. -/
def fromUtf8Lossy (bytes : List UInt8) : Text :=
  fromUtf8LossyLoop 0 bytes

@[simp]
theorem utf8Bytes_nil : utf8Bytes [] = [] := rfl

theorem utf8Bytes_cons (c : Char) (t : Text) :
    utf8Bytes (c :: t) = String.utf8EncodeChar c ++ utf8Bytes t := rfl

theorem utf8Bytes_append (t u : Text) :
    utf8Bytes (t ++ u) = utf8Bytes t ++ utf8Bytes u :=
  List.flatMap_append

theorem toByteArray_utf8Bytes (t : Text) : (utf8Bytes t).toByteArray = t.utf8Encode := by
  rw [List.utf8Encode, utf8Bytes]

/-- Bytes are read as a text exactly when they encode it. -/
theorem fromUtf8_eq_some_iff (bytes : List UInt8) (t : Text) :
    fromUtf8 bytes = some t ↔ utf8Bytes t = bytes := by
  rw [fromUtf8, ← List.toByteArray_inj, toByteArray_utf8Bytes]
  constructor
  · intro h
    obtain ⟨characters, hdecode, rfl⟩ := Option.map_eq_some_iff.1 h
    have hsome : bytes.toByteArray.utf8Decode?.isSome = true := by
      rw [hdecode]
      rfl
    have hencode := ByteArray.utf8Encode_get_utf8Decode? (h := hsome)
    simpa only [hdecode, Option.get_some] using hencode
  · intro h
    rw [← h, List.utf8Decode?_utf8Encode]
    rfl

theorem fromUtf8LossyLoop_skip (front back : List UInt8) :
    fromUtf8LossyLoop front.length (front ++ back) = fromUtf8LossyLoop 0 back := by
  induction front with
  | nil => rfl
  | cons b front ih => exact ih

/-- The lossy reading of an encoded text is the text. -/
theorem fromUtf8Lossy_utf8Bytes (t : Text) : fromUtf8Lossy (utf8Bytes t) = t := by
  induction t with
  | nil => rfl
  | cons c t ih =>
      rw [fromUtf8Lossy, utf8Bytes_cons]
      obtain ⟨first, rest, hfirst⟩ :=
        List.exists_cons_of_ne_nil (String.utf8EncodeChar_ne_nil (c := c))
      have hdecode : (first :: (rest ++ utf8Bytes t)).toByteArray.utf8DecodeChar? 0 =
          some c := by
        rw [← List.cons_append, ← hfirst, List.toByteArray_append]
        exact ByteArray.utf8DecodeChar?_utf8EncodeChar_append
      have hlength : c.utf8Size - 1 = rest.length := by
        rw [← String.length_utf8EncodeChar c, hfirst, List.length_cons,
          Nat.add_sub_cancel]
      rw [hfirst, List.cons_append, fromUtf8LossyLoop, hdecode]
      simp only
      rw [hlength, fromUtf8LossyLoop_skip]
      exact congrArg (c :: ·) ih

theorem utf8Bytes_injective : Function.Injective utf8Bytes := by
  intro t u h
  rw [← fromUtf8Lossy_utf8Bytes t, h, fromUtf8Lossy_utf8Bytes]

end ChainworksForge.Support.Text
