/-!
# Sets of code points

A set of code points is given by its boundaries: the increasing list of the code points at
which membership changes, starting from "not a member". A code point is a member iff an odd
number of boundaries lie at or below it.
-/

namespace AgentPackage.Text

/-- A set of code points, by the increasing list of the code points where membership changes. -/
structure CodePointSet where
  /-- The code points at which membership changes. -/
  boundaries : List Nat

namespace CodePointSet

/-- Whether code point `n` is a member, `state` being the membership below the boundaries that
are still to be passed. -/
def memberFrom (state : Bool) (n : Nat) : List Nat → Bool
  | [] => state
  | b :: bs => if n < b then state else memberFrom (!state) n bs

/-- Whether `c` belongs to the set. -/
def contains (s : CodePointSet) (c : Char) : Bool :=
  memberFrom false c.toNat s.boundaries

end CodePointSet

end AgentPackage.Text
