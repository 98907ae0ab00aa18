/-!
# Byte strings

Payloads and snapshot files are byte strings. `utf8` is the encoding of a text, `text?` reads one
back and refuses bytes that are no UTF-8; `text?_eq_some_iff` says that the two are inverse to
each other. `bigEndian` writes a 32-bit word with its high byte first.
-/

namespace Retained

abbrev Bytes := List UInt8

namespace Bytes

def ofByteArray (b : ByteArray) : Bytes := b.data.toList

def toByteArray (b : Bytes) : ByteArray := ⟨b.toArray⟩

@[simp]
theorem toByteArray_ofByteArray (b : ByteArray) : (ofByteArray b).toByteArray = b := by
  simp [ofByteArray, toByteArray]

@[simp]
theorem ofByteArray_toByteArray (b : Bytes) : ofByteArray b.toByteArray = b := by
  simp [ofByteArray, toByteArray]

def utf8 (s : String) : Bytes := ofByteArray s.toUTF8

/-- The text that `b` encodes, if `b` is valid UTF-8. -/
def text? (b : Bytes) : Option String := String.fromUTF8? b.toByteArray

theorem text?_eq_some_iff {b : Bytes} {s : String} : b.text? = some s ↔ b = utf8 s := by
  unfold text? String.fromUTF8? utf8
  constructor
  · intro h
    split at h
    · have h' := congrArg String.toByteArray (Option.some.inj h)
      simp only [String.fromUTF8] at h'
      rw [show s.toUTF8 = s.toByteArray from rfl, ← h', ofByteArray_toByteArray]
    · cases h
  · rintro rfl
    have h : (ofByteArray s.toUTF8).toByteArray = s.toByteArray := toByteArray_ofByteArray _
    rw [h, dif_pos s.isValidUTF8]
    rfl

@[simp]
theorem text?_utf8 (s : String) : (utf8 s).text? = some s := text?_eq_some_iff.2 rfl

/-- The four bytes of a word, the high one first. -/
def bigEndian (w : UInt32) : Bytes :=
  [(w >>> 24).toUInt8, (w >>> 16).toUInt8, (w >>> 8).toUInt8, w.toUInt8]

def word (a b c d : UInt8) : UInt32 :=
  a.toUInt32 <<< 24 ||| b.toUInt32 <<< 16 ||| c.toUInt32 <<< 8 ||| d.toUInt32

end Bytes

end Retained
