import CqlClient.Message.DatabaseError
import CqlClient.Proofs.Wire.Accepted

namespace CqlClient

open Reader

namespace WriteType

/-- The name fits its field, and it is not kept as unknown if it has a meaning. -/
def Consistent : WriteType → Prop
  | .other name =>
      (Bytes.ofString name).FitsShort ∧ ∀ kind : WriteType, kind.name = name → kind = .other name
  | _ => True

theorem Consistent.fits_name {kind : WriteType} (h : kind.Consistent) :
    (Bytes.ofString kind.name).FitsShort := by
  cases kind with
  | other name => exact h.1
  | _ => decide +kernel

theorem Consistent.ofName_name {kind : WriteType} (h : kind.Consistent) :
    ofName kind.name = kind := by
  cases kind with
  | other name =>
      change ofName name = .other name
      unfold ofName
      split <;> exact h.2 _ rfl
  | _ => rfl

theorem consistent_ofName {name : String} (h : (Bytes.ofString name).FitsShort) :
    (ofName name).Consistent := by
  unfold ofName
  split
  case h_7 =>
    refine ⟨h, ?_⟩
    intro kind hkind
    cases kind with
    | other name => exact congrArg other hkind
    | _ =>
        subst hkind
        contradiction
  all_goals trivial

end WriteType

namespace DatabaseError

/-- The fields of the error fit, and its code is not kept as unknown if it has a meaning. -/
def Consistent : DatabaseError → Prop
  | .writeTimeout _ _ _ writeType => writeType.Consistent
  | .alreadyExists keyspace table =>
      (Bytes.ofString keyspace).FitsShort ∧ (Bytes.ofString table).FitsShort
  | .unprepared id => id.FitsShort
  | .other code => ∀ error : DatabaseError, error.code = code → error = .other code
  | _ => True

theorem Consistent.succeeds_writeFields {error : DatabaseError} (h : error.Consistent) :
    Write.Succeeds error.writeFields := by
  cases error with
  | writeTimeout consistency received required writeType =>
      simp [writeFields, WriteType.Consistent.fits_name h]
  | alreadyExists keyspace table =>
      simp only [Consistent] at h
      simp [writeFields, h]
  | unprepared id =>
      simp only [Consistent] at h
      simp [writeFields, h]
  | _ => simp [writeFields]

theorem readFields_of_unknown {code : Int32}
    (h : ∀ error : DatabaseError, error.code = code → error = .other code) :
    readFields code = pure (.other code) := by
  have hknown (error : DatabaseError) (heq : code.toInt = error.code.toInt) :
      error = .other code :=
    h error (Int32.toInt_inj.mp heq.symm)
  unfold readFields
  split
  · next heq => exact nomatch hknown .serverError heq
  · next heq => exact nomatch hknown .protocolError heq
  · next heq => exact nomatch hknown .authenticationError heq
  · next heq => exact nomatch hknown (.unavailable .any 0 0) heq
  · next heq => exact nomatch hknown .overloaded heq
  · next heq => exact nomatch hknown .isBootstrapping heq
  · next heq => exact nomatch hknown .truncateError heq
  · next heq => exact nomatch hknown (.writeTimeout .any 0 0 .simple) heq
  · next heq => exact nomatch hknown (.readTimeout .any 0 0 false) heq
  · next heq => exact nomatch hknown .syntaxError heq
  · next heq => exact nomatch hknown .unauthorized heq
  · next heq => exact nomatch hknown .invalid heq
  · next heq => exact nomatch hknown .configError heq
  · next heq => exact nomatch hknown (.alreadyExists "" "") heq
  · next heq => exact nomatch hknown (.unprepared []) heq
  · rfl

theorem Consistent.readsBack_readFields {error : DatabaseError} (h : error.Consistent) :
    ReadsBack (readFields error.code) error.writeFields error := by
  cases error with
  | unavailable consistency required alive =>
      refine Reads.readsBack ?_
      rw [List.append_assoc]
      refine (reads_consistency consistency).bind ?_
      refine (reads_int required).bind ?_
      exact (reads_int alive).map (DatabaseError.unavailable consistency required)
  | writeTimeout consistency received required writeType =>
      rw [writeFields, Write.concat_ok_append_cons, Write.concat_ok_append_cons]
      refine ReadsBack.bind (reads_consistency consistency).readsBack ?_
      refine ReadsBack.bind (reads_int received).readsBack ?_
      refine ReadsBack.bind (reads_int required).readsBack ?_
      refine ReadsBack.bind (readsBack_string writeType.name) ?_
      rw [WriteType.Consistent.ofName_name h]
      exact readsBack_pure _
  | readTimeout consistency received required dataPresent =>
      refine Reads.readsBack ?_
      rw [List.append_assoc, List.append_assoc]
      refine (reads_consistency consistency).bind ?_
      refine (reads_int received).bind ?_
      refine (reads_int required).bind ?_
      have hread := (reads_byte (if dataPresent then 1 else 0)).map fun data =>
        DatabaseError.readTimeout consistency received required (decide (data ≠ 0))
      cases dataPresent <;> exact hread
  | alreadyExists keyspace table =>
      refine ReadsBack.bind (readsBack_string keyspace) ?_
      refine ReadsBack.bind (readsBack_string table) ?_
      exact readsBack_pure _
  | unprepared id => exact (readsBack_shortBytes id).map DatabaseError.unprepared
  | other code =>
      change ReadsBack (readFields code) (.ok []) _
      rw [readFields_of_unknown h]
      exact readsBack_pure (DatabaseError.other code)
  | _ => exact readsBack_pure _

theorem ensures_readFields (code : Int32) : Ensures (readFields code) Consistent := by
  unfold readFields
  split
  -- Besides the errors that have fields, only a code that is kept has something to be shown.
  case h_4 => -- unavailable
    refine (ensures_true _).bind fun consistency _ => (ensures_true _).bind fun required _ => ?_
    exact (ensures_true _).bind fun alive _ => ensures_pure trivial
  case h_8 => -- writeTimeout
    refine (ensures_true _).bind fun consistency _ => (ensures_true _).bind fun received _ => ?_
    refine (ensures_true _).bind fun required _ => ensures_string.bind fun name hname => ?_
    exact ensures_pure (WriteType.consistent_ofName hname)
  case h_9 => -- readTimeout
    refine (ensures_true _).bind fun consistency _ => (ensures_true _).bind fun received _ => ?_
    refine (ensures_true _).bind fun required _ => (ensures_true _).bind fun data _ => ?_
    exact ensures_pure trivial
  case h_14 => -- alreadyExists
    refine ensures_string.bind fun keyspace hkeyspace => ensures_string.bind fun table htable => ?_
    exact ensures_pure ⟨hkeyspace, htable⟩
  case h_15 => -- unprepared
    exact ensures_shortBytes.map fun id hid => hid
  case h_16 => -- other
    refine ensures_pure ?_
    intro error herror
    subst herror
    cases error with
    | other code => rfl
    | _ => contradiction
  all_goals exact ensures_pure trivial

end DatabaseError

namespace ErrorReport

/-- The error and the reason have a wire form of their own. -/
structure Consistent (report : ErrorReport) : Prop where
  error : report.error.Consistent
  reason : (Bytes.ofString report.reason).FitsShort

theorem Consistent.succeeds_write {report : ErrorReport} (h : report.Consistent) :
    Write.Succeeds report.write := by
  simp [write, h.reason, h.error.succeeds_writeFields]

theorem Consistent.readsBack_read {report : ErrorReport} (h : report.Consistent) :
    ReadsBack read report.write report := by
  refine ReadsBack.bind (reads_int report.error.code).readsBack ?_
  refine ReadsBack.bind (readsBack_string report.reason) ?_
  exact ReadsBack.bind h.error.readsBack_readFields (readsBack_pure report)

theorem ensures_read : Ensures read Consistent := by
  refine (ensures_true _).bind fun code _ => ?_
  refine ensures_string.bind fun reason hreason => ?_
  exact (DatabaseError.ensures_readFields code).bind fun error herror =>
    ensures_pure ⟨herror, hreason⟩

end ErrorReport

end CqlClient
