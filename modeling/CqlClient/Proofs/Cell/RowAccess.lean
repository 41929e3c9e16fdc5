import CqlClient.Cell.Reader
import CqlClient.Proofs.Message.Result

namespace CqlClient.Rows

variable {rows : Rows} {row : Row} {name : String} {index : Nat}

theorem columnIndex?_eq_none_iff :
    rows.columnIndex? name = none ↔ ∀ spec ∈ rows.metadata.columns, spec.name ≠ name := by
  simp [columnIndex?]

theorem exists_spec_of_columnIndex? (h : rows.columnIndex? name = some index) :
    ∃ spec, rows.metadata.columns[index]? = some spec ∧ spec.name = name ∧
      ∀ earlier ∈ rows.metadata.columns.take index, earlier.name ≠ name := by
  obtain ⟨hindex, hname, hearlier⟩ := List.findIdx?_eq_some_iff_getElem.mp h
  refine ⟨_, List.getElem?_eq_getElem hindex, of_decide_eq_true hname, fun earlier hmem => ?_⟩
  obtain ⟨place, hplace, rfl⟩ := List.mem_take_iff_getElem.mp hmem
  have hother := hearlier place (Nat.lt_of_lt_of_le hplace (Nat.min_le_left _ _))
  simpa using hother

namespace Consistent

theorem exists_cell (h : rows.Consistent) (hrow : row ∈ rows.rows) {spec : ColumnSpec}
    (hspec : rows.metadata.columns[index]? = some spec) : ∃ cell, row[index]? = some cell := by
  have hindex := (List.getElem?_eq_some_iff.mp hspec).1
  -- As there is a column at the index, the columns were not left out.
  have hlength : rows.metadata.columns.length = rows.metadata.columnCount := by
    refine h.metadata.columns.resolve_left fun hnone => ?_
    rw [hnone] at hindex
    exact Nat.not_lt_zero _ hindex
  rw [hlength, ← h.cells row hrow] at hindex
  exact ⟨_, List.getElem?_eq_getElem hindex⟩

theorem get_cases (h : rows.Consistent) (hrow : row ∈ rows.rows) (name : String) {α : Type}
    (reader : CellReader α) :
    (∀ spec ∈ rows.metadata.columns, spec.name ≠ name) ∧
        rows.get reader row name = .error (.noSuchColumn name) ∨
      ∃ spec index cell, rows.metadata.columns[index]? = some spec ∧ spec.name = name ∧
        (∀ earlier ∈ rows.metadata.columns.take index, earlier.name ≠ name) ∧
        row[index]? = some cell ∧
        rows.get reader row name = (reader spec.type cell).mapError (.badCell · index) := by
  unfold get
  cases hindex : rows.columnIndex? name with
  | none => exact .inl ⟨columnIndex?_eq_none_iff.mp hindex, rfl⟩
  | some index =>
      obtain ⟨spec, hspec, hname, hfirst⟩ := exists_spec_of_columnIndex? hindex
      obtain ⟨cell, hcell⟩ := h.exists_cell hrow hspec
      refine .inr ⟨spec, index, cell, hspec, hname, hfirst, hcell, ?_⟩
      simp only [hspec, hcell]

end Consistent

theorem mapError_badCell_eq_error {α : Type} {result : Except CellError α} {e : RowError}
    (h : result.mapError (.badCell · index) = .error e) : ∃ cause, e = .badCell cause index := by
  cases result with
  | error cause => exact ⟨cause, (Except.error.inj h).symm⟩
  | ok value => exact nomatch h

/-- Every row that was read has as many cells as are announced, and as many columns are described or
none. So no cell of such a row is missed, and a name is refused just if no column has it. -/
theorem misses_only_unknown_names {bytes rest : Bytes} {data : Rows}
    (hread : QueryOutcome.read bytes = .ok (.rows data, rest)) :
    (∀ row ∈ data.rows, row.length = data.metadata.columnCount) ∧
    (data.metadata.columns.length = data.metadata.columnCount ∨ data.metadata.columns = []) ∧
    ∀ {α : Type} (reader : CellReader α), ∀ row ∈ data.rows, ∀ name,
      (∀ expected actual, data.get reader row name ≠ .error (.wrongRowSize expected actual)) ∧
      ∀ asked, data.get reader row name = .error (.noSuchColumn asked) ↔
        asked = name ∧ ∀ spec ∈ data.metadata.columns, spec.name ≠ name := by
  have hdata : data.Consistent := QueryOutcome.ensures_read bytes (.rows data) rest hread
  refine ⟨hdata.cells, hdata.metadata.columns.symm, fun reader row hrow name => ?_⟩
  rcases hdata.get_cases hrow name reader with
    ⟨hunknown, hget⟩ | ⟨spec, index, cell, hspec, hname, -, -, hget⟩
  · rw [hget]
    refine ⟨fun _ _ => nofun, fun asked => ⟨fun h => ?_, fun h => by rw [h.1]⟩⟩
    cases h
    exact ⟨rfl, hunknown⟩
  · rw [hget]
    refine ⟨fun expected actual h => ?_, fun asked => ⟨fun h => ?_, fun h => ?_⟩⟩
    · obtain ⟨cause, hcause⟩ := mapError_badCell_eq_error h
      exact nomatch hcause
    · obtain ⟨cause, hcause⟩ := mapError_badCell_eq_error h
      exact nomatch hcause
    · exact absurd hname (h.2 spec (List.mem_of_getElem? hspec))

theorem misses_only_unknown_names_columnsLeftOut :
    let described : Bytes := [
      0, 0, 0, 1, 0, 0, 0, 1, 0, 1, 0x6B, 0, 1, 0x74, 0, 1, 0x61, 0, 0x0D, 0, 0, 0, 1,
      0, 0, 0, 1, 0x78]
    let leftOut : Bytes := [0, 0, 0, 4, 0, 0, 0, 1, 0, 0, 0, 1, 0, 0, 0, 1, 0x78]
    let row : Row := [some [0x78]]
    let data := ofTable "k" "t" [("a", .text)] [row]
    let bare : Rows := ⟨{ columnCount := 1 }, [row]⟩
    QueryOutcome.read (Write.int 2 ++ described) = .ok (.rows data, []) ∧
      QueryOutcome.read (Write.int 2 ++ leftOut) = .ok (.rows bare, []) ∧
      row ∈ data.rows ∧ row ∈ bare.rows ∧
      data.get CellReader.string row "a" ≠ .error (.noSuchColumn "a") ∧
      bare.get CellReader.string row "a" = .error (.noSuchColumn "a") := by
  intro described leftOut row data bare
  have hdescribed : QueryOutcome.read (Write.int 2 ++ described) = .ok (.rows data, []) := by
    decide +kernel
  have hleftOut : QueryOutcome.read (Write.int 2 ++ leftOut) = .ok (.rows bare, []) := by
    decide +kernel
  have hrow : row ∈ data.rows := List.mem_singleton.mpr rfl
  have hbare : row ∈ bare.rows := List.mem_singleton.mpr rfl
  refine ⟨hdescribed, hleftOut, hrow, hbare, ?_, ?_⟩
  · intro h
    have hnames := (misses_only_unknown_names hdescribed).2.2 CellReader.string row hrow "a"
    exact (hnames.2 "a" |>.mp h).2 _ List.mem_cons_self rfl
  · have hnames := (misses_only_unknown_names hleftOut).2.2 CellReader.string row hbare "a"
    exact (hnames.2 "a").mpr ⟨rfl, nofun⟩

end CqlClient.Rows
