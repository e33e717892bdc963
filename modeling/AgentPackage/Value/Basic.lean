import AgentPackage.Value.Calendar

/-!
# Document values

The values that JSON and YAML documents hold. A mapping is a list of entries in the order of
the document, no two of them with the same key; in JSON every key is a string, in YAML a key
may be any scalar.
-/

namespace AgentPackage

/-- A value read from a document. -/
inductive Value where
  /-- The absent value. -/
  | null
  /-- A truth value. -/
  | bool (b : Bool)
  /-- An integer. -/
  | int (i : Int)
  /-- A floating-point number. -/
  | float (x : Float)
  /-- A text. -/
  | str (s : String)
  /-- A date. -/
  | date (d : Date)
  /-- A date with a time of day. -/
  | dateTime (t : DateTime)
  /-- Binary data. -/
  | bytes (bs : List UInt8)
  /-- A sequence. -/
  | list (xs : List Value)
  /-- A fixed row of values, as an ordered mapping has for its entries. -/
  | tuple (xs : List Value)
  /-- A set, in the order of the document. -/
  | set (xs : List Value)
  /-- A mapping. -/
  | map (entries : List (Value × Value))
  deriving Inhabited

/-- The entries of a mapping, in the order of the document. -/
abbrev Fields := List (Value × Value)

namespace Value

/-- The text of a string value. -/
def str? : Value → Option String
  | .str s => some s
  | _ => none

/-- The elements of a sequence. -/
def list? : Value → Option (List Value)
  | .list xs => some xs
  | _ => none

/-- The entries of a mapping. -/
def map? : Value → Option Fields
  | .map entries => some entries
  | _ => none

/-- Whether the value is a string. -/
def isStr (v : Value) : Bool :=
  v.str?.isSome

/-- Whether the value is the string `s`. -/
def isString (s : String) : Value → Bool
  | .str t => t == s
  | _ => false

/-- The exact value `n / d` of a finite float, as a pair of a numerator and a denominator. -/
def ratioOfFloat (x : Float) : Int × Nat :=
  if x == 0 then (0, 1)
  else
    let b := Decimal.Binary.ofFloat x
    let n : Int := (b.mantissa * Nat.pow 2 b.exponent.toNat : Nat)
    (if x < 0 then -n else n, Nat.pow 2 (-b.exponent).toNat)

/-- Whether an integer and a float are the same number. -/
def intEqFloat (i : Int) (x : Float) : Bool :=
  if x.isNaN || x.isInf then false
  else
    let (n, d) := ratioOfFloat x
    i * d == n

/-- The integer that a truth value counts as when keys are compared. -/
def ofBool (b : Bool) : Int :=
  if b then 1 else 0

mutual

/-- Whether two keys are the same key of a mapping: numbers are compared by value, truth values
counting as one and zero. What is no number is not the same as anything. -/
def sameKey : Value → Value → Bool
  | .null, .null => true
  | .bool a, .bool b => a == b
  | .bool a, .int j => ofBool a == j
  | .int i, .bool b => i == ofBool b
  | .bool a, .float y => intEqFloat (ofBool a) y
  | .float x, .bool b => intEqFloat (ofBool b) x
  | .int i, .int j => i == j
  | .int i, .float y => intEqFloat i y
  | .float x, .int j => intEqFloat j x
  | .float x, .float y => x == y
  | .str s, .str t => s == t
  | .date a, .date b => a == b
  | .dateTime a, .dateTime b => a.sameInstant b
  | .bytes a, .bytes b => a == b
  | .tuple xs, .tuple ys => sameKeys xs ys
  | _, _ => false

/-- Whether two rows of keys are the same, element by element. -/
def sameKeys : List Value → List Value → Bool
  | [], [] => true
  | x :: xs, y :: ys => sameKey x y && sameKeys xs ys
  | _, _ => false

end

/-- Whether a value can be a key of a mapping. -/
def isKey : Value → Bool
  | .list _ | .set _ | .map _ => false
  | _ => true

end Value

namespace Fields

/-- The value stored under the string key `key`. -/
def get? (fields : Fields) (key : String) : Option Value :=
  (fields.find? fun e => e.1.isString key).map Prod.snd

/-- Whether there is an entry with the string key `key`. -/
def contains (fields : Fields) (key : String) : Bool :=
  fields.any fun e => e.1.isString key

/-- Stores `value` under `key`: in place of the value stored there before, or at the end. -/
def insert (key value : Value) : Fields → Fields
  | [] => [(key, value)]
  | e :: es => if e.1.sameKey key then (e.1, value) :: es else e :: insert key value es

/-- The entries of `entries`, stored one after another. -/
def ofList (entries : List (Value × Value)) : Fields :=
  entries.foldl (fun fields e => insert e.1 e.2 fields) []

/-- The entries without those of the string key `key`. -/
def erase (fields : Fields) (key : String) : Fields :=
  fields.filter fun e => !e.1.isString key

end Fields

end AgentPackage
