import AgentPackage.Value.Basic
import AgentPackage.Value.Fault

/-!
# Copying values

A value is copied part by part, each call waiting for those of its parts. How deep a value is nested
therefore decides how many calls wait at once.
-/

namespace AgentPackage

namespace Value

mutual

/-- The number of calls that wait at once when a value is copied. A collection is also looked up
when its parts are copied, and a set or a time is put together from what it is made of. -/
def copyCalls : Value → Nat
  | .list xs => max 1 (copyCallsAll xs) + 2
  | .tuple xs => copyCallsAll xs + 3
  | .set xs => max 1 (copyCallsAll xs) + 5
  | .map es => max 1 (copyCallsEntries es) + 2
  | .date _ => 5
  | .dateTime t => if t.offset.isSome then 11 else 5
  | _ => 2

/-- The greatest number of calls for one of several values. -/
def copyCallsAll : List Value → Nat
  | [] => 0
  | x :: xs => max (copyCalls x) (copyCallsAll xs)

/-- The greatest number of calls for one of the keys and values of a mapping. -/
def copyCallsEntries : List (Value × Value) → Nat
  | [] => 0
  | (k, v) :: es => max (max (copyCalls k) (copyCalls v)) (copyCallsEntries es)

end

end Value

/-- The number of calls that wait at once when a mapping is copied. -/
def Fields.copyCalls (fields : Fields) : Nat :=
  (Value.map fields).copyCalls

end AgentPackage
