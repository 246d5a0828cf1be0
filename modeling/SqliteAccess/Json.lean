import SqliteAccess.Text.Basic

/-!
# JSON values

The fields of a log record and the values of a settings source are JSON values. The fields of an
object are kept in order, because a reader of the log sees their order.

## Main definitions

* `Json` : a value.
* `Fields` : the fields of an object, in order.
* `Fields.put` : sets a field in its place.
-/

namespace SqliteAccess

/-- A JSON value whose numbers are integers. -/
inductive Json
  | null
  | boolean (value : Bool)
  | integer (value : Int)
  | text (value : Text)
  | list (items : List Json)
  /-- An object, with its fields in order. -/
  | object (fields : List (Text × Json))
  deriving Inhabited

/-- The fields of an object, in order. -/
abbrev Fields := List (Text × Json)

namespace Fields

/-- Sets a field: a field of that name keeps its place and takes the value, a new one comes last. -/
def put (key : Text) (value : Json) : Fields → Fields
  | [] => [(key, value)]
  | (k, v) :: rest => if k = key then (key, value) :: rest else (k, v) :: put key value rest

/-- Sets fields one after the other. -/
def putAll (fields new : Fields) : Fields := new.foldl (fun fs (k, v) => fs.put k v) fields

/-- The value of a field. -/
def get? (fields : Fields) (key : Text) : Option Json :=
  (fields.find? fun f => f.1 = key).map (·.2)

/-- A field has the value that was set last. -/
theorem get?_put_self (fields : Fields) (key : Text) (value : Json) :
    (put key value fields).get? key = some value := by
  induction fields with
  | nil => simp [put, get?]
  | cons f rest ih =>
    by_cases h : f.1 = key
    · simp [put, get?, h]
    · simpa [put, get?, h] using ih

/-- Setting a field keeps the others. -/
theorem get?_put_of_ne (fields : Fields) {key other : Text} (value : Json) (h : other ≠ key) :
    (put key value fields).get? other = fields.get? other := by
  induction fields with
  | nil => simp [put, get?, Ne.symm h]
  | cons f rest ih =>
    by_cases hk : f.1 = key
    · simp [put, get?, hk, Ne.symm h]
    · rw [put, if_neg hk]
      by_cases ho : f.1 = other
      · simp [get?, ho]
      · simpa [get?, ho] using ih

end Fields

end SqliteAccess
