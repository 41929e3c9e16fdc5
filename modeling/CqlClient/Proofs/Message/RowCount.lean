import CqlClient.Proofs.Message.Delimited
import CqlClient.Proofs.Wire.Canonical
import Mathlib.Algebra.BigOperators.Ring.List
import Mathlib.Algebra.Ring.Nat

namespace CqlClient

open Reader

namespace Reader

variable {α β : Type} {size : α → Nat} {whole : β → Nat}

/-- A value takes at least as many bytes as its size. -/
def Takes (reader : Reader α) (size : α → Nat) : Prop :=
  ∀ bytes value rest, reader bytes = .ok (value, rest) → size value + rest.length ≤ bytes.length

theorem IgnoresRest.takes {reader : Reader α} (h : IgnoresRest reader) :
    Takes reader fun _ => 0 := by
  intro bytes value rest hread
  obtain ⟨taken, rfl, -⟩ := h bytes value rest hread
  rw [Nat.zero_add, List.length_append]
  exact Nat.le_add_left _ _

theorem Takes.bind {reader : Reader α} {next : α → Reader β} (h : Takes reader size)
    (hnext : ∀ a, Takes (next a) fun b => whole b - size a) : Takes (reader >>= next) whole := by
  intro bytes b rest hread
  obtain ⟨a, between, ha, hb⟩ := bind_eq_ok_iff.mp hread
  have hfront : size a + between.length ≤ bytes.length := h bytes a between ha
  have hback : whole b - size a + rest.length ≤ between.length := hnext a between b rest hb
  omega

theorem Takes.map {reader : Reader α} (h : Takes reader size) {f : α → β}
    (hf : ∀ a, whole (f a) ≤ size a) : Takes (f <$> reader) whole := by
  intro bytes b rest hread
  obtain ⟨a, ha, rfl⟩ := map_eq_ok_iff.mp hread
  exact Nat.le_trans (Nat.add_le_add_right (hf a) _) (h bytes a rest ha)

theorem Takes.many {reader : Reader α} (h : Takes reader size) (n : Nat) :
    Takes (many reader n) fun values => (values.map size).sum := by
  induction n with
  | zero =>
      intro bytes values rest hread
      obtain ⟨rfl, rfl⟩ := Prod.mk.inj (Except.ok.inj hread)
      exact Nat.le_of_eq (Nat.zero_add _)
  | succ n ih =>
      rw [many_succ]
      refine h.bind fun value => ih.map fun values => ?_
      rw [List.map_cons, List.sum_cons]
      exact Nat.le_of_eq (Nat.add_sub_cancel_left _ _)

theorem takes_fixed (width : Nat) : Takes (fixed width) fun _ => width := by
  intro bytes value rest hread
  rw [(eq_append_of_fixed hread).1, List.length_append, Bytes.length_ofNat]

theorem takes_int : Takes int fun _ => 4 := (takes_fixed 4).map fun _ => Nat.le_refl 4

theorem takes_intLength : Takes intLength fun _ => 4 :=
  takes_int.bind fun _ => ((ignoresRest_refuse _).ite (ignoresRest_pure _)).takes

theorem length_of_intLength {bytes rest : Bytes} {length : Nat}
    (hread : intLength bytes = .ok (length, rest)) : bytes.length = rest.length + 4 := by
  obtain ⟨number, left, hint, hlength⟩ := bind_eq_ok_iff.mp hread
  obtain ⟨value, hfixed, -⟩ := map_eq_ok_iff.mp hint
  split at hlength
  · exact nomatch hlength
  · obtain ⟨-, rfl⟩ := Prod.mk.inj (Except.ok.inj hlength)
    rw [(eq_append_of_fixed hfixed).1, List.length_append, Bytes.length_ofNat, Nat.add_comm]

theorem takes_bytesOpt : Takes bytesOpt fun _ => 4 :=
  takes_int.bind fun _ => ((ignoresRest_pure none).ite ((ignoresRest_raw _).map some)).takes

end Reader

namespace Metadata

theorem takes_read : Takes read fun _ => 8 := by
  intro bytes metadata rest hread
  obtain ⟨taken, rfl, htaken⟩ := ignoresRest_read bytes metadata rest hread
  obtain ⟨flags, behindFlags, hflags, hcount⟩ := bind_eq_ok_iff.mp (htaken [])
  obtain ⟨count, behindCount, hcount, -⟩ := bind_eq_ok_iff.mp hcount
  have hfirst : 4 + behindFlags.length ≤ (taken ++ []).length := takes_int _ _ _ hflags
  have hsecond : 4 + behindCount.length ≤ behindFlags.length := takes_intLength _ _ _ hcount
  rw [List.append_nil] at hfirst
  change 8 + rest.length ≤ (taken ++ rest).length
  rw [List.length_append]
  omega

end Metadata

namespace Rows

/-- Neither the rows nor the cells are more than the bytes of a body. -/
structure BoundedBy (data : Rows) (body : Bytes) : Prop where
  rows : data.rows.length ≤ body.length
  cells : data.rows.flatten.length ≤ body.length

/-- Whether metadata in a body of a given length leave no room for more rows or cells than bytes. -/
def AreBounded (metadata : Metadata) (length : Nat) : Prop :=
  ∀ body data rest, body.length = length → data.metadata = metadata →
    QueryOutcome.read body = .ok (.rows data, rest) → data.BoundedBy body

theorem takes_row (columnCount : Nat) :
    Takes (many bytesOpt columnCount) fun row => row.length * 4 := by
  simpa only [List.map_const', List.sum_replicate_nat] using takes_bytesOpt.many columnCount

theorem takes_rows (columnCount count : Nat) :
    Takes (many (many bytesOpt columnCount) count) fun rows => rows.flatten.length * 4 := by
  have hsum (rows : List Row) :
      (rows.map fun row => row.length * 4).sum = rows.flatten.length * 4 := by
    rw [List.length_flatten, List.sum_map_mul_right]
  simpa only [hsum] using (takes_row columnCount).many count

theorem takes_read : Takes read fun data => data.rows.flatten.length * 4 + 12 := by
  refine Metadata.takes_read.bind fun metadata => takes_intLength.bind fun count => ?_
  refine (takes_rows metadata.columnCount count).map fun rows => ?_
  exact Nat.le_refl _

theorem Consistent.length_flatten {data : Rows} (h : data.Consistent) :
    data.rows.flatten.length = data.rows.length * data.metadata.columnCount := by
  rw [List.length_flatten, List.map_congr_left h.cells, List.map_const', List.sum_replicate_nat]

end Rows

namespace QueryOutcome

variable {body rest : Bytes} {data : Rows}

theorem read_eq_rows_iff : read body = .ok (.rows data, rest) ↔
    ∃ contents, int body = .ok (2, contents) ∧ Rows.read contents = .ok (data, rest) := by
  constructor
  · intro hread
    obtain ⟨kind, contents, hkind, hrest⟩ := bind_eq_ok_iff.mp hread
    generalize hnumber : kind.toInt = number at hrest
    split at hrest
    case h_1 => exact nomatch hrest -- void
    case h_2 => -- rows
      obtain ⟨found, hfound, hsame⟩ := map_eq_ok_iff.mp hrest
      obtain rfl := QueryOutcome.rows.inj hsame
      obtain rfl : kind = 2 := Int32.toInt_inj.mp hnumber
      exact ⟨contents, hkind, hfound⟩
    case h_3 => -- setKeyspace
      obtain ⟨keyspace, -, hsame⟩ := map_eq_ok_iff.mp hrest
      exact nomatch hsame
    case h_4 => -- prepared
      obtain ⟨id, behindId, -, hmarkers⟩ := bind_eq_ok_iff.mp hrest
      obtain ⟨bindMarkers, behindMarkers, -, hcolumns⟩ := bind_eq_ok_iff.mp hmarkers
      obtain ⟨columns, behindColumns, -, hsame⟩ := bind_eq_ok_iff.mp hcolumns
      exact nomatch hsame
    case h_5 => -- schemaChange
      obtain ⟨names, behindNames, -, hsame⟩ := bind_eq_ok_iff.mp hrest
      exact nomatch hsame
    case h_6 => exact nomatch hrest
  · rintro ⟨contents, hkind, hrows⟩
    exact bind_eq_ok_iff.mpr ⟨2, contents, hkind, map_eq_ok_iff.mpr ⟨data, hrows, rfl⟩⟩

/-- Kind, flags, number of columns and number of rows come to sixteen bytes, and each cell to four
or more. -/
theorem length_flatten_rows_le (hread : read body = .ok (.rows data, rest)) :
    data.rows.flatten.length * 4 + 16 ≤ body.length := by
  obtain ⟨contents, hkind, hrows⟩ := read_eq_rows_iff.mp hread
  have hfirst : 4 + contents.length ≤ body.length := takes_int _ _ _ hkind
  have hbehind : data.rows.flatten.length * 4 + 12 + rest.length ≤ contents.length :=
    Rows.takes_read _ _ _ hrows
  omega

theorem boundedBy_of_columns (hread : read body = .ok (.rows data, rest))
    (hcolumns : data.metadata.columnCount ≠ 0) : data.BoundedBy body := by
  have hcells := length_flatten_rows_le hread
  have hdata : data.Consistent := ensures_read body (.rows data) rest hread
  have hrows := Nat.le_mul_of_pos_right data.rows.length (Nat.pos_of_ne_zero hcolumns)
  rw [← hdata.length_flatten] at hrows
  exact ⟨by omega, by omega⟩

theorem reads_replicate (count : Nat) :
    Reads (many (many bytesOpt 0) count) [] (List.replicate count []) := by
  induction count with
  | zero => exact reads_pure []
  | succ count ih =>
      rw [many_succ, List.replicate_succ]
      exact (reads_pure []).bind (ih.map ([] :: ·))

theorem exists_read_replicate (hread : read body = .ok (.rows data, rest))
    (hcolumns : data.metadata.columnCount = 0) {count : Nat} (hcount : count ≤ 0x7FFFFFFF) :
    ∃ other, other.length = body.length ∧
      read other = .ok (.rows ⟨data.metadata, List.replicate count []⟩, rest) := by
  obtain ⟨contents, hkind, hrows⟩ := read_eq_rows_iff.mp hread
  obtain ⟨metadata, between, hmetadata, hbehind⟩ := bind_eq_ok_iff.mp hrows
  obtain ⟨announced, left, hannounced, hdata⟩ := bind_eq_ok_iff.mp hbehind
  obtain ⟨rows, hmany, rfl⟩ := map_eq_ok_iff.mp hdata
  obtain ⟨kind, rfl, hreadsKind⟩ := ignoresRest_int _ _ _ hkind
  obtain ⟨described, rfl, hdescribed⟩ := Metadata.ignoresRest_read _ _ _ hmetadata
  have hempty (count : Nat) : many (many bytesOpt metadata.columnCount) count left =
      .ok (List.replicate count [], left) := by
    rw [hcolumns]
    exact reads_replicate count left
  obtain ⟨-, rfl⟩ := Prod.mk.inj (Except.ok.inj ((hempty announced).symm.trans hmany))
  refine ⟨kind ++ (described ++ (Bytes.ofNat 4 count ++ left)), ?_, ?_⟩
  · simp only [List.length_append, Bytes.length_ofNat, length_of_intLength hannounced]
    omega
  · refine read_eq_rows_iff.mpr ⟨_, hreadsKind _, bind_eq_ok_iff.mpr ⟨_, _, hdescribed _, ?_⟩⟩
    refine bind_eq_ok_iff.mpr ⟨count, left, reads_intLength hcount left, ?_⟩
    exact map_eq_ok_iff.mpr ⟨_, hempty count, rfl⟩

end QueryOutcome

namespace Rows

/-- The cells of a result are never more than the bytes they were read from. With the rows this is
so just if there are columns, unless the body is as long as the greatest number of rows: otherwise a
body of the same length with the same metadata announces more rows, which have no cells. -/
theorem boundedBy_iff {body rest : Bytes} {data : Rows}
    (hread : QueryOutcome.read body = .ok (.rows data, rest)) :
    data.rows.flatten.length * 4 + 16 ≤ body.length ∧
      (AreBounded data.metadata body.length ↔
        data.metadata.columnCount ≠ 0 ∨ 0x7FFFFFFF ≤ body.length) := by
  refine ⟨QueryOutcome.length_flatten_rows_le hread, ?_, ?_⟩
  · intro hall
    by_cases hcolumns : data.metadata.columnCount = 0
    · obtain ⟨other, hlength, hother⟩ :=
        QueryOutcome.exists_read_replicate hread hcolumns (Nat.le_refl 0x7FFFFFFF)
      have hbounded := hall other ⟨data.metadata, .replicate 0x7FFFFFFF []⟩ rest hlength rfl hother
      have hrows := hbounded.rows
      rw [List.length_replicate, hlength] at hrows
      exact .inr hrows
    · exact .inl hcolumns
  · rintro hcase other found left hlength hmetadata hother
    rcases hcase with hcolumns | hlong
    · exact QueryOutcome.boundedBy_of_columns hother (hmetadata ▸ hcolumns)
    · have hfound : found.Consistent := QueryOutcome.ensures_read other (.rows found) left hother
      have hcells := QueryOutcome.length_flatten_rows_le hother
      exact ⟨Nat.le_trans hfound.count (hlength ▸ hlong), by omega⟩

/-- Sixteen bytes that announce seventeen rows without columns. -/
def bareBody : Bytes := [0, 0, 0, 2, 0, 0, 0, 4, 0, 0, 0, 0, 0, 0, 0, 17]

theorem read_bareBody :
    QueryOutcome.read bareBody = .ok (.rows ⟨{}, List.replicate 17 []⟩, []) := by
  decide +kernel

theorem boundedBy_iff_bareBody :
    let nulls : Bytes := [
      0, 0, 0, 2, 0, 0, 0, 4, 0, 0, 0, 1, 0, 0, 0, 2,
      0xFF, 0xFF, 0xFF, 0xFF, 0xFF, 0xFF, 0xFF, 0xFF]
    QueryOutcome.read bareBody = .ok (.rows ⟨{}, List.replicate 17 []⟩, []) ∧
      QueryOutcome.read nulls = .ok (.rows ⟨{ columnCount := 1 }, [[none], [none]]⟩, []) ∧
      ¬ AreBounded {} bareBody.length ∧ AreBounded { columnCount := 1 } nulls.length := by
  intro nulls
  have hnulls :
      QueryOutcome.read nulls = .ok (.rows ⟨{ columnCount := 1 }, [[none], [none]]⟩, []) := by
    decide +kernel
  refine ⟨read_bareBody, hnulls, fun hbounded => ?_, ?_⟩
  · exact absurd ((boundedBy_iff read_bareBody).2.mp hbounded) (by decide)
  · exact (boundedBy_iff hnulls).2.mpr (.inl Nat.one_ne_zero)

theorem not_boundedBy_read : ¬ ∀ body data rest,
    QueryOutcome.read body = .ok (.rows data, rest) → data.BoundedBy body := by
  intro h
  exact absurd (h _ _ _ read_bareBody).rows (by decide)

end Rows

end CqlClient
