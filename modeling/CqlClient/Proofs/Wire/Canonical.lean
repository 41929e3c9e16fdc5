import CqlClient.Proofs.Wire.SelfDelimiting
import Mathlib.Data.List.Induction

namespace CqlClient

namespace Bytes

theorem ofNat_toNat (bytes : Bytes) : ofNat bytes.length (toNat bytes) = bytes := by
  induction bytes using List.reverseRecOn with
  | nil => rfl
  | append_singleton bytes b ih =>
      have hlow : b.toNat < 256 := b.toNat_lt
      have hhigh : (toNat bytes * 256 + b.toNat) / 256 = toNat bytes := by omega
      have hlast : UInt8.ofNat (toNat bytes * 256 + b.toNat) = b := by
        rw [← UInt8.toNat_inj, UInt8.toNat_ofNat', Nat.mul_add_mod_of_lt hlow]
      rw [List.length_append, List.length_singleton, toNat_append_singleton, ofNat, hhigh, ih,
        hlast]

theorem toNat_lt (bytes : Bytes) : toNat bytes < Nat.pow 256 bytes.length := by
  rw [← ofNat_toNat bytes, toNat_ofNat, length_ofNat]
  exact Nat.mod_lt _ (Nat.pow_pos (by decide))

/-- A text behind its length of two bytes. -/
def ofText (text : String) : Bytes :=
  ofNat 2 (ofString text).length ++ ofString text

end Bytes

namespace Write

variable {α : Type} {write : α → Written} {form : α → Bytes} {Fits : α → Prop}

theorem shortLength_eq_ok_iff {length : Nat} {bytes : Bytes} :
    shortLength length = .ok bytes ↔ length ≤ 0xFFFF ∧ bytes = Bytes.ofNat 2 length := by
  have hfits : length < UInt16.size ↔ length ≤ 0xFFFF := Nat.lt_succ_iff
  rw [shortLength]
  split
  · next h => simp [hfits.mp h, eq_comm]
  · next h => simp [mt hfits.mpr h]

theorem shortBytes_eq_ok_iff {value bytes : Bytes} :
    shortBytes value = .ok bytes ↔
      value.FitsShort ∧ bytes = Bytes.ofNat 2 value.length ++ value := by
  rw [shortBytes, map_append_eq_concat, concat_cons_eq_ok_iff]
  simp only [concat_singleton, shortLength_eq_ok_iff, Bytes.FitsShort]
  constructor
  · rintro ⟨front, back, ⟨hfits, rfl⟩, hback, rfl⟩
    exact ⟨hfits, by rw [Except.ok.inj hback]⟩
  · rintro ⟨hfits, rfl⟩
    exact ⟨_, value, ⟨hfits, rfl⟩, rfl, rfl⟩

theorem string_eq_ok {text : String} (h : (Bytes.ofString text).FitsShort) :
    string text = .ok (Bytes.ofText text) :=
  shortBytes_eq_ok_iff.mpr ⟨h, rfl⟩

theorem concat_map_eq_ok_iff
    (h : ∀ value bytes, write value = .ok bytes ↔ Fits value ∧ bytes = form value)
    {values : List α} {bytes : Bytes} :
    concat (values.map write) = .ok bytes ↔
      (∀ value ∈ values, Fits value) ∧ bytes = values.flatMap form := by
  induction values generalizing bytes with
  | nil => simp [eq_comm]
  | cons value values ih =>
      rw [List.map_cons, concat_cons_eq_ok_iff, List.forall_mem_cons, List.flatMap_cons]
      constructor
      · rintro ⟨front, back, hfront, hback, rfl⟩
        obtain ⟨hvalue, rfl⟩ := (h value front).mp hfront
        obtain ⟨hvalues, rfl⟩ := ih.mp hback
        exact ⟨⟨hvalue, hvalues⟩, rfl⟩
      · rintro ⟨⟨hvalue, hvalues⟩, rfl⟩
        exact ⟨_, _, (h value _).mpr ⟨hvalue, rfl⟩, ih.mpr ⟨hvalues, rfl⟩, rfl⟩

theorem counted_eq_ok_iff
    (h : ∀ value bytes, write value = .ok bytes ↔ Fits value ∧ bytes = form value)
    {values : List α} {bytes : Bytes} :
    counted write values = .ok bytes ↔
      values.length ≤ 0xFFFF ∧ (∀ value ∈ values, Fits value) ∧
        bytes = Bytes.ofNat 2 values.length ++ values.flatMap form := by
  rw [counted, concat_cons_eq_ok_iff]
  constructor
  · rintro ⟨front, back, hfront, hback, rfl⟩
    obtain ⟨hlength, rfl⟩ := shortLength_eq_ok_iff.mp hfront
    obtain ⟨hvalues, rfl⟩ := (concat_map_eq_ok_iff h).mp hback
    exact ⟨hlength, hvalues, rfl⟩
  · rintro ⟨hlength, hvalues, rfl⟩
    exact ⟨_, _, shortLength_eq_ok_iff.mpr ⟨hlength, rfl⟩,
      (concat_map_eq_ok_iff h).mpr ⟨hvalues, rfl⟩, rfl⟩

end Write

namespace Reader

variable {α β : Type}

/-- Every value is read from nothing but the bytes that are written for it. -/
def Canonical (reader : Reader α) (write : α → Written) : Prop :=
  ∀ bytes value rest, reader bytes = .ok (value, rest) →
    ∃ front, write value = .ok front ∧ bytes = front ++ rest

theorem Canonical.eq_ok_iff {reader : Reader α} {write : α → Written} (h : Canonical reader write)
    (hback : ∀ value, ReadsBack reader (write value) value) {bytes rest : Bytes} {value : α} :
    reader bytes = .ok (value, rest) ↔
      ∃ front, write value = .ok front ∧ bytes = front ++ rest := by
  constructor
  · exact h bytes value rest
  · rintro ⟨front, hfront, rfl⟩
    exact hback value front hfront rest

theorem eq_append_of_fixed {width value : Nat} {bytes rest : Bytes}
    (h : fixed width bytes = .ok (value, rest)) :
    bytes = Bytes.ofNat width value ++ rest ∧ value < Nat.pow 256 width := by
  unfold fixed at h
  split at h
  · next taken rest' hsplit =>
      obtain ⟨rfl, rfl⟩ := Prod.mk.inj (Except.ok.inj h)
      have hlt := taken.toNat_lt
      have hform := taken.ofNat_toNat
      rw [Bytes.length_of_splitExact? hsplit] at hlt hform
      exact ⟨by rw [hform, Bytes.eq_append_of_splitExact? hsplit], hlt⟩
  · exact nomatch h

theorem canonical_shortLength : Canonical shortLength Write.shortLength := by
  intro bytes length rest hread
  obtain ⟨number, hshort, rfl⟩ := map_eq_ok_iff.mp hread
  obtain ⟨value, hfixed, rfl⟩ := map_eq_ok_iff.mp hshort
  obtain ⟨rfl, hlt⟩ := eq_append_of_fixed hfixed
  rw [UInt16.toNat_ofNat_of_lt' hlt]
  exact ⟨_, Write.shortLength_eq_ok_iff.mpr ⟨Nat.le_of_lt_succ hlt, rfl⟩, rfl⟩

theorem eq_append_of_byte {bytes rest : Bytes} {value : UInt8}
    (h : byte bytes = .ok (value, rest)) : bytes = Write.byte value ++ rest := by
  obtain ⟨number, hfixed, rfl⟩ := map_eq_ok_iff.mp h
  exact (eq_append_of_fixed hfixed).1

theorem eq_append_of_raw {count : Nat} {bytes value rest : Bytes}
    (h : raw count bytes = .ok (value, rest)) : bytes = value ++ rest ∧ value.length = count := by
  unfold raw at h
  split at h
  · next taken rest' hsplit =>
      obtain ⟨rfl, rfl⟩ := Prod.mk.inj (Except.ok.inj h)
      exact ⟨Bytes.eq_append_of_splitExact? hsplit, Bytes.length_of_splitExact? hsplit⟩
  · exact nomatch h

theorem eq_append_of_octets {n : Nat} {bytes rest : Bytes} {value : Octets n}
    (h : octets n bytes = .ok (value, rest)) : bytes = value.val ++ rest := by
  unfold octets at h
  split at h
  · next taken rest' hsplit =>
      obtain ⟨rfl, rfl⟩ := Prod.mk.inj (Except.ok.inj h)
      exact Bytes.eq_append_of_splitExact? hsplit
  · exact nomatch h

theorem canonical_shortBytes : Canonical shortBytes Write.shortBytes := by
  intro bytes value rest hread
  obtain ⟨length, between, hlength, hraw⟩ := bind_eq_ok_iff.mp hread
  obtain ⟨front, hfront, rfl⟩ := canonical_shortLength bytes length between hlength
  obtain ⟨rfl, rfl⟩ := eq_append_of_raw hraw
  obtain ⟨hfits, rfl⟩ := Write.shortLength_eq_ok_iff.mp hfront
  exact ⟨_, Write.shortBytes_eq_ok_iff.mpr ⟨hfits, rfl⟩, (List.append_assoc ..).symm⟩

theorem canonical_string : Canonical string Write.string := by
  intro bytes text rest hread
  obtain ⟨value, between, hvalue, htext⟩ := bind_eq_ok_iff.mp hread
  obtain ⟨front, hfront, rfl⟩ := canonical_shortBytes bytes value between hvalue
  rw [decodeText] at htext
  cases hdecode : Utf8.decode value with
  | error fault =>
      rw [hdecode] at htext
      cases htext
  | ok decoded =>
      rw [hdecode] at htext
      obtain ⟨rfl, rfl⟩ := Prod.mk.inj (Except.ok.inj htext)
      obtain rfl := Utf8.eq_ofString_of_decode hdecode
      exact ⟨front, hfront, rfl⟩

theorem string_eq_ok_iff {bytes rest : Bytes} {text : String} :
    string bytes = .ok (text, rest) ↔
      (Bytes.ofString text).FitsShort ∧ bytes = Bytes.ofText text ++ rest := by
  rw [canonical_string.eq_ok_iff readsBack_string]
  constructor
  · rintro ⟨front, hfront, rfl⟩
    obtain ⟨hfits, rfl⟩ := Write.shortBytes_eq_ok_iff.mp hfront
    exact ⟨hfits, rfl⟩
  · rintro ⟨hfits, rfl⟩
    exact ⟨_, Write.shortBytes_eq_ok_iff.mpr ⟨hfits, rfl⟩, rfl⟩

section Combined

variable {first : Reader α} {second : Reader β} {write : α → Written} {writeSecond : β → Written}

theorem Canonical.pair (hfirst : Canonical first write) (hsecond : Canonical second writeSecond) :
    Canonical (pair first second) fun both =>
      Write.concat [write both.1, writeSecond both.2] := by
  intro bytes both rest hread
  obtain ⟨a, between, ha, hrest⟩ := bind_eq_ok_iff.mp hread
  obtain ⟨b, left, hb, hboth⟩ := bind_eq_ok_iff.mp hrest
  obtain ⟨rfl, rfl⟩ := Prod.mk.inj (Except.ok.inj hboth)
  obtain ⟨front, hfront, rfl⟩ := hfirst bytes a between ha
  obtain ⟨back, hback, rfl⟩ := hsecond between b left hb
  refine ⟨front ++ back, ?_, (List.append_assoc ..).symm⟩
  rw [Write.concat_cons_eq_ok_iff]
  exact ⟨front, back, hfront, by rwa [Write.concat_singleton], rfl⟩

theorem Canonical.many (h : Canonical first write) (n : Nat) :
    Canonical (many first n) fun values => Write.concat (values.map write) := by
  induction n with
  | zero =>
      intro bytes values rest hread
      obtain ⟨rfl, rfl⟩ := Prod.mk.inj (Except.ok.inj hread)
      exact ⟨[], rfl, rfl⟩
  | succ n ih =>
      intro bytes values rest hread
      rw [many_succ] at hread
      obtain ⟨value, between, hvalue, hmore⟩ := bind_eq_ok_iff.mp hread
      obtain ⟨more, hmany, rfl⟩ := map_eq_ok_iff.mp hmore
      obtain ⟨front, hfront, rfl⟩ := h bytes value between hvalue
      obtain ⟨back, hback, rfl⟩ := ih between more rest hmany
      refine ⟨front ++ back, ?_, (List.append_assoc ..).symm⟩
      exact Write.concat_cons_eq_ok_iff.mpr ⟨front, back, hfront, hback, rfl⟩

theorem Canonical.counted (h : Canonical first write) :
    Canonical (shortLength >>= Reader.many first) (Write.counted write) := by
  intro bytes values rest hread
  obtain ⟨count, between, hcount, hmany⟩ := bind_eq_ok_iff.mp hread
  obtain ⟨front, hfront, rfl⟩ := canonical_shortLength bytes count between hcount
  obtain ⟨rfl, -⟩ := (ensures_true first).many count between values rest hmany
  obtain ⟨back, hback, rfl⟩ := h.many values.length between values rest hmany
  refine ⟨front ++ back, ?_, (List.append_assoc ..).symm⟩
  exact Write.concat_cons_eq_ok_iff.mpr ⟨front, back, hfront, hback, rfl⟩

end Combined

end Reader

end CqlClient
