namespace CqlClient

/-- How many replicas must take part in a request. -/
inductive Consistency
  | any
  | one
  | two
  | three
  | quorum
  | all
  | localQuorum
  | eachQuorum
  | serial
  | localSerial
  | localOne
  deriving DecidableEq, Repr, Inhabited

namespace Consistency

/-- Number of the level on the wire. -/
def code : Consistency → UInt16
  | .any => 0
  | .one => 1
  | .two => 2
  | .three => 3
  | .quorum => 4
  | .all => 5
  | .localQuorum => 6
  | .eachQuorum => 7
  | .serial => 8
  | .localSerial => 9
  | .localOne => 10

/-- The level with a given number. -/
def ofCode? : UInt16 → Option Consistency
  | 0 => some .any
  | 1 => some .one
  | 2 => some .two
  | 3 => some .three
  | 4 => some .quorum
  | 5 => some .all
  | 6 => some .localQuorum
  | 7 => some .eachQuorum
  | 8 => some .serial
  | 9 => some .localSerial
  | 10 => some .localOne
  | _ => none

theorem ofCode?_code (level : Consistency) : ofCode? level.code = some level := by
  cases level <;> rfl

/-- Name of the level. -/
def name : Consistency → String
  | .any => "Any"
  | .one => "One"
  | .two => "Two"
  | .three => "Three"
  | .quorum => "Quorum"
  | .all => "All"
  | .localQuorum => "LocalQuorum"
  | .eachQuorum => "EachQuorum"
  | .serial => "Serial"
  | .localSerial => "LocalSerial"
  | .localOne => "LocalOne"

end Consistency

/-- Consistency of the check in a conditional update. -/
inductive SerialConsistency
  | serial
  | localSerial
  deriving DecidableEq, Repr, Inhabited

namespace SerialConsistency

/-- The level among all levels. -/
def toConsistency : SerialConsistency → Consistency
  | .serial => .serial
  | .localSerial => .localSerial

/-- The serial level that a level is, if it is one. -/
def ofConsistency? : Consistency → Option SerialConsistency
  | .serial => some .serial
  | .localSerial => some .localSerial
  | _ => none

theorem ofConsistency?_toConsistency (level : SerialConsistency) :
    ofConsistency? level.toConsistency = some level := by
  cases level <;> rfl

end SerialConsistency

end CqlClient
