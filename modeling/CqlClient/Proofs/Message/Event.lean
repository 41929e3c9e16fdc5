import CqlClient.Message.Event
import CqlClient.Proofs.Wire.Accepted

namespace CqlClient

open Reader

theorem EventType.fits_name (kind : EventType) : (Bytes.ofString kind.name).FitsShort := by
  cases kind <;> decide +kernel

theorem TopologyChange.fits_name (change : TopologyChange) :
    (Bytes.ofString change.name).FitsShort := by
  cases change <;> decide +kernel

theorem TopologyChange.ofName?_name (change : TopologyChange) :
    ofName? change.name = some change := by
  cases change <;> rfl

theorem StatusChange.fits_name (change : StatusChange) :
    (Bytes.ofString change.name).FitsShort := by
  cases change <;> decide +kernel

theorem StatusChange.ofName?_name (change : StatusChange) : ofName? change.name = some change := by
  cases change <;> rfl

theorem SchemaChange.fits_name (change : SchemaChange) :
    (Bytes.ofString change.name).FitsShort := by
  cases change <;> decide +kernel

theorem SchemaChange.ofName_name (change : SchemaChange) : ofName change.name = change := by
  cases change <;> rfl

namespace Event

/-- The names in a schema change fit their fields, and a table that is there has a name. -/
structure NamesFit (keyspace : String) (table : Option String) : Prop where
  keyspace : (Bytes.ofString keyspace).FitsShort
  table : ∀ name ∈ table, name ≠ "" ∧ (Bytes.ofString name).FitsShort

/-- The event has a wire form of its own. -/
def Consistent : Event → Prop
  | .topology _ _ => True
  | .status _ _ => True
  | .schema _ keyspace table => NamesFit keyspace table

theorem NamesFit.succeeds_writeSchema {keyspace : String} {table : Option String}
    (h : NamesFit keyspace table) (change : SchemaChange) :
    Write.Succeeds (writeSchema change keyspace table) := by
  have htable : (Bytes.ofString (table.getD "")).FitsShort := by
    cases table with
    | none => decide +kernel
    | some name => exact (h.table name rfl).2
  simp [writeSchema, change.fits_name, h.keyspace, htable]

theorem NamesFit.readsBack_readSchema {keyspace : String} {table : Option String}
    (h : NamesFit keyspace table) (change : SchemaChange) :
    ReadsBack readSchema (writeSchema change keyspace table) (change, keyspace, table) := by
  refine ReadsBack.bind ((readsBack_string change.name).map SchemaChange.ofName) ?_
  refine ReadsBack.bind (readsBack_string keyspace) ?_
  refine ReadsBack.bind (readsBack_string (table.getD "")) ?_
  have htable : (if (table.getD "").isEmpty then none else some (table.getD "")) = table := by
    cases table with
    | none => rfl
    | some name => simp [(h.table name rfl).1]
  rw [change.ofName_name, htable]
  exact readsBack_pure (change, keyspace, table)

theorem ensures_readSchema : Ensures readSchema fun names => NamesFit names.2.1 names.2.2 := by
  refine (ensures_true _).bind fun change _ => ?_
  refine ensures_string.bind fun keyspace hkeyspace => ?_
  refine ensures_string.bind fun table htable => ensures_pure ⟨hkeyspace, ?_⟩
  intro name hname
  split at hname
  · exact nomatch hname
  · next hempty =>
      obtain rfl := Option.some.inj hname
      exact ⟨by simpa using hempty, htable⟩

theorem Consistent.succeeds_write {event : Event} (h : event.Consistent) :
    Write.Succeeds event.write := by
  have hkind := event.eventType.fits_name
  cases event with
  | topology change node => simp [write, hkind, change.fits_name]
  | status change node => simp [write, hkind, change.fits_name]
  | schema change keyspace table =>
      simp [write, hkind, NamesFit.succeeds_writeSchema h change]

theorem readsBack_kind {event : Event} {change : Written}
    (h : ReadsBack (readChange event.eventType) change event) :
    ReadsBack read (Write.concat [Write.string event.eventType.name, change]) event := by
  have hkind : Reads (EventType.ofName event.eventType.name : Except ParseError _) []
      event.eventType := by
    rw [EventType.ofName, EventType.ofName?_name]
    exact reads_pure event.eventType
  refine ReadsBack.bind (readsBack_string event.eventType.name) ?_
  rw [← Write.concat_ok_nil_cons]
  refine ReadsBack.bind hkind.readsBack ?_
  rwa [Write.concat_singleton]

theorem Consistent.readsBack_read {event : Event} (h : event.Consistent) :
    ReadsBack read event.write event := by
  cases event with
  | topology change node =>
      refine readsBack_kind ?_
      change ReadsBack _ ((· ++ Write.inet node) <$> Write.string change.name) _
      rw [Write.map_append_eq_concat]
      refine ReadsBack.bind (readsBack_string change.name) ?_
      refine ReadsBack.bind (reads_inet node).readsBack ?_
      rw [change.ofName?_name]
      exact readsBack_pure (Event.topology change node)
  | status change node =>
      refine readsBack_kind ?_
      change ReadsBack _ ((· ++ Write.inet node) <$> Write.string change.name) _
      rw [Write.map_append_eq_concat]
      refine ReadsBack.bind (readsBack_string change.name) ?_
      refine ReadsBack.bind (reads_inet node).readsBack ?_
      rw [change.ofName?_name]
      exact readsBack_pure (Event.status change node)
  | schema change keyspace table =>
      refine readsBack_kind ?_
      change ReadsBack _ (writeSchema change keyspace table) _
      rw [← Write.concat_singleton (writeSchema _ _ _)]
      exact ReadsBack.bind (NamesFit.readsBack_readSchema h change) (readsBack_pure _)

theorem ensures_readChange (kind : EventType) : Ensures (readChange kind) Consistent := by
  cases kind with
  | topologyChange =>
      refine (ensures_true _).bind fun name _ => (ensures_true _).bind fun node _ => ?_
      split
      · exact ensures_pure trivial
      · exact ensures_refuse _
  | statusChange =>
      refine (ensures_true _).bind fun name _ => (ensures_true _).bind fun node _ => ?_
      split
      · exact ensures_pure trivial
      · exact ensures_refuse _
  | schemaChange => exact ensures_readSchema.bind fun names hnames => ensures_pure hnames

theorem ensures_read : Ensures read Consistent := by
  refine (ensures_true _).bind fun name _ => ?_
  refine (ensures_true _).bind fun kind _ => ensures_readChange kind

end Event

end CqlClient
