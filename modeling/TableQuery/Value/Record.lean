/-
# TableQuery.Value.Record — columns and their values.

The columns of a row, and the parameters that come under keys, are pairs of a key and a value in the
order in which they were written.  A key is a name, or a whole number where columns have no names.
Writing a key that is there keeps its place and changes its value.
-/
import TableQuery.Value.Basic

namespace TableQuery

/-- The key of a value: a name or a position. -/
inductive Key where
  | name (text : String)
  | position (index : Int)
  deriving DecidableEq, Repr

/-- Values under keys, in order. -/
abbrev Record := List (Key × Value)

namespace Record

/-- The value under a key. -/
def get? (r : Record) (key : Key) : Option Value := (r.find? (·.1 == key)).map (·.2)

/-- Whether there is a value under the key. -/
def has (r : Record) (key : Key) : Bool := r.any (·.1 == key)

/-- Writes a value under a key. -/
def set : Record → Key → Value → Record
  | [], key, v => [(key, v)]
  | (k, w) :: rest, key, v => if k = key then (k, v) :: rest else (k, w) :: set rest key v

/-- Writes every pair of the second record into the first, from left to right. -/
def update (r changes : Record) : Record := changes.foldl (fun r kv => r.set kv.1 kv.2) r

/-- The record of some pairs: a repeated key keeps its first place and takes its last value. -/
def ofPairs (pairs : List (Key × Value)) : Record := update [] pairs

/-- Values numbered from zero. -/
def numbered (values : List Value) : Record :=
  values.mapIdx fun i v => (.position i, v)

/-- The value of a named column; NULL when the row has no such column. -/
def column (r : Record) (name : String) : Value := (r.get? (.name name)).getD .null

/-- The value of the first column; NULL when there is none. -/
def first (r : Record) : Value :=
  match r with
  | (_, v) :: _ => v
  | [] => .null

/-- The value that was written is found under its key, every other one as before. -/
theorem get?_set (r : Record) (key k : Key) (v : Value) :
    (r.set key v).get? k = if key = k then some v else r.get? k := by
  induction r with
  | nil =>
    by_cases h : key = k <;> simp [set, get?, h]
  | cons head rest ih =>
    obtain ⟨j, w⟩ := head
    by_cases hj : j = key
    · by_cases hk : key = k <;> simp_all [set, get?]
    · by_cases hk : j = k
      · by_cases hkk : key = k
        · simp_all
        · simp_all [set, get?]
      · simp only [get?, set, hj, if_false] at ih ⊢
        simp_all

/-- Writing keeps every key in its place, and a new one comes last. -/
theorem keys_set (r : Record) (key : Key) (v : Value) :
    (r.set key v).map (·.1) = if r.has key then r.map (·.1) else r.map (·.1) ++ [key] := by
  induction r with
  | nil => simp [set, has]
  | cons head rest ih =>
    obtain ⟨k, w⟩ := head
    by_cases h : k = key
    · simp [set, has, h]
    · have hb : (k == key) = false := by simpa using h
      have hr : has ((k, w) :: rest) key = has rest key := by simp [has, hb]
      rw [hr]
      cases hk : has rest key <;> simp [set, h, ih, hk]

end Record
end TableQuery
