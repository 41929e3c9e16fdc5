import CqlClient.Proofs.Compression.Runs
import CqlClient.Proofs.Frame.Transport

namespace CqlClient.Frame

/-- Four bytes cannot tell the size of the body, and it is compressed to little. -/
structure Outgrows (body : Bytes) : Prop where
  long : 0x100000000 ≤ body.length
  packed : (Compression.pack (some .lz4) body).length ≤ maxBodySize

variable {body front : Bytes} {many few : Nat} {first second : UInt8}

theorem takes_lz4 (body : Bytes) :
    ∀ algorithm ∈ some Compression.lz4, algorithm.takes body = true := by
  rintro algorithm ⟨⟩
  rfl

theorem Outgrows.unpack_ne (h : Outgrows body) :
    Compression.unpack (some .lz4) (Compression.pack (some .lz4) body) ≠ .ok body := by
  rw [ne_eq, Compression.unpack_pack_iff (takes_lz4 body)]
  exact fun hshort => Nat.not_lt.mpr h.long (hshort rfl)

/-- A length is written as the byte four times over. -/
structure Repeats (count : Nat) (byte : UInt8) : Prop where
  lt : count < 0x80000000
  spelled : Bytes.ofNat 4 count = List.replicate 4 byte

theorem repeats_many : Repeats 0x7F7F7F7F 0x7F := ⟨by decide, by decide⟩

theorem repeats_few : Repeats 0x01010101 0x01 := ⟨by decide, by decide⟩

theorem Repeats.fitsInt (h : Repeats many first) : Bytes.FitsInt (List.replicate many first) := by
  have hlt := h.lt
  rw [Bytes.FitsInt, List.length_replicate]
  omega

theorem Repeats.bytesOpt_replicate (h : Repeats many first) :
    Write.bytesOpt (some (List.replicate many first)) = .ok (List.replicate (4 + many) first) := by
  have hlength : Write.intLength many = .ok (List.replicate 4 first) := by
    rw [Write.intLength, if_pos h.lt, h.spelled]
  rw [Write.bytesOpt, Write.bytes, List.length_replicate, hlength,
    ← List.replicate_append_replicate]
  rfl

/-- Three values that repeat one byte each. -/
def repeatedValues (many few : Nat) (first second : UInt8) : List (Option Bytes) :=
  [some (List.replicate many first), some (List.replicate many first),
    some (List.replicate few second)]

theorem fitsInt_repeatedValues (hfirst : Repeats many first) (hsecond : Repeats few second) :
    ∀ cell ∈ repeatedValues many few first second, ∀ value ∈ cell, Bytes.FitsInt value := by
  rintro cell (_ | ⟨_, _ | ⟨_, _ | ⟨_, ⟨⟩⟩⟩⟩) value ⟨⟩
  · exact hfirst.fitsInt
  · exact hfirst.fitsInt
  · exact hsecond.fitsInt

theorem concat_repeatedValues (hfirst : Repeats many first) (hsecond : Repeats few second)
    (front : Bytes) {parts : List Written} (hparts : Write.concat parts = .ok []) :
    Write.concat
        (.ok front :: ((repeatedValues many few first second).map Write.bytesOpt ++ parts)) =
      .ok (Lz4.runs front (4 + many + (4 + many)) first (4 + few) second) := by
  simp only [repeatedValues, List.map_cons, List.map_nil, hfirst.bytesOpt_replicate,
    hsecond.bytesOpt_replicate, List.cons_append, List.nil_append, Write.concat_cons, hparts,
    Except.bind, Functor.map, Except.map]
  rw [Lz4.runs, ← List.replicate_append_replicate (n := 4 + many) (m := 4 + many),
    List.append_nil, List.append_assoc]

theorem outgrows_runs (hfront : front ≠ []) (hshort : front.length ≤ 32)
    (hdistinct : Lz4.Distinct front 0x7F) (hlast : front.getLast?.getD 0 ≠ 0x7F) :
    Outgrows (Lz4.runs front (4 + 0x7F7F7F7F + (4 + 0x7F7F7F7F)) 0x7F (4 + 0x01010101) 0x01) := by
  generalize hbody : Lz4.runs front _ _ _ _ = body
  have hlength : body.length = front.length + _ + _ := hbody ▸ Lz4.length_runs
  have hruns : Lz4.TwoRuns body.toByteArray 0x7F 0x01 front.length _ := hbody ▸
    Lz4.twoRuns_runs hfront hshort hdistinct hlast (by decide) (by decide) (by decide)
  have hsmall := hruns.length_compress_le
  refine ⟨by omega, ?_⟩
  rw [Compression.pack, Compression.compress, List.length_append, Bytes.length_ofNat]
  simp only [maxBodySize]
  omega

end CqlClient.Frame
