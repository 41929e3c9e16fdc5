import CqlClient.Bytes

namespace CqlClient.Utf8

/-- The first place where bytes stop being UTF-8. -/
structure Fault where
  /-- Where the faulty sequence starts. -/
  index : Nat
  /-- Length of the longest good start of the sequence, at least one byte; `none` if the text ends
  inside a sequence that was good so far. -/
  length : Option Nat
  deriving DecidableEq, Repr

/-- Wording of a fault. -/
def Fault.message (fault : Fault) : String :=
  match fault.length with
  | some length =>
      "invalid utf-8 sequence of " ++ toString length ++ " bytes from index " ++
        toString fault.index
  | none => "incomplete utf-8 byte sequence from index " ++ toString fault.index

/-- What a lead byte promises: how many bytes follow, and the range of the first of them. -/
def follow? (lead : UInt8) : Option (Nat × UInt8 × UInt8) :=
  if lead < 0x80 then some (0, 0, 0)
  else if lead < 0xC2 then none
  else if lead < 0xE0 then some (1, 0x80, 0xBF)
  else if lead = 0xE0 then some (2, 0xA0, 0xBF)
  else if lead = 0xED then some (2, 0x80, 0x9F)
  else if lead < 0xF0 then some (2, 0x80, 0xBF)
  else if lead = 0xF0 then some (3, 0x90, 0xBF)
  else if lead < 0xF4 then some (3, 0x80, 0xBF)
  else if lead = 0xF4 then some (3, 0x80, 0x8F)
  else none

/-- Scan from `index`. `start` is where the current sequence began and `seen` how many of its
bytes were good; `owed` bytes are still expected, the next of them between `low` and `high`. -/
def scan (index start seen owed : Nat) (low high : UInt8) : Bytes → Option Fault
  | [] => if owed = 0 then none else some ⟨start, none⟩
  | b :: rest =>
      match owed with
      | 0 =>
          match follow? b with
          | some (owed, low, high) => scan (index + 1) index 1 owed low high rest
          | none => some ⟨index, some 1⟩
      | owed + 1 =>
          if low ≤ b ∧ b ≤ high then scan (index + 1) start (seen + 1) owed 0x80 0xBF rest
          else some ⟨start, some seen⟩

/-- The first fault of the bytes as a UTF-8 text. -/
def fault? (bytes : Bytes) : Option Fault :=
  scan 0 0 0 0 0 0 bytes

/-- Read bytes as a UTF-8 text, or say where they stop being one. -/
def decode (bytes : Bytes) : Except Fault String :=
  match String.fromUTF8? bytes.toByteArray with
  | some text => .ok text
  | none => .error ((fault? bytes).getD ⟨0, none⟩)

theorem decode_ofString (text : String) : decode (Bytes.ofString text) = .ok text := by
  have h : (Bytes.ofString text).toByteArray = text.toByteArray := by
    apply ByteArray.ext
    simp [Bytes.ofString]
  simp [decode, h, String.fromUTF8?, text.isValidUTF8, String.fromUTF8]

theorem eq_ofString_of_decode {bytes : Bytes} {text : String} (h : decode bytes = .ok text) :
    bytes = Bytes.ofString text := by
  unfold decode at h
  split at h
  · next text' hText =>
      obtain rfl := Except.ok.inj h
      simp only [String.fromUTF8?] at hText
      split at hText
      · obtain rfl := Option.some.inj hText
        simp [Bytes.ofString, String.fromUTF8]
      · simp at hText
  · simp at h

end CqlClient.Utf8
