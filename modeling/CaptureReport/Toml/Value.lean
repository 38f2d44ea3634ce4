/-!
# TOML values

The values that a TOML document holds. Numbers that are no integers, and dates and times, are never
read by anyone here, so they are kept as they were written.

A number may be **unreadable**: laid out as a number, but without a value. A document may hold such
a number as long as nobody looks at it.

## Main results

* `isReadable_array`, `isReadable_table`: a value is readable when all that it holds is.
* `Value.same_iff`: values can be compared.
-/

namespace CaptureReport.Toml

/-- A TOML value. -/
inductive Value
  | string (text : String)
  | integer (n : Int)
  /-- A number with a fraction or an exponent, or one that is infinite or no number. -/
  | float (literal : String)
  | boolean (b : Bool)
  /-- A number that has no value. -/
  | unreadable
  /-- A date, a time, or both. -/
  | moment (literal : String)
  | array (items : List Value)
  | table (entries : List (String × Value))

/-- A table: its keys, each with a value; a key occurs once. -/
abbrev Table := List (String × Value)

mutual

/-- Whether a value has no unreadable number in it. -/
def Value.isReadable : Value → Bool
  | .unreadable => false
  | .array items => areReadable items
  | .table entries => entriesAreReadable entries
  | .string _ | .integer _ | .float _ | .boolean _ | .moment _ => true

/-- Whether no value of a list has an unreadable number in it. -/
def areReadable : List Value → Bool
  | [] => true
  | value :: rest => value.isReadable && areReadable rest

/-- Whether no value of a table has an unreadable number in it. -/
def entriesAreReadable : List (String × Value) → Bool
  | [] => true
  | (_, value) :: rest => value.isReadable && entriesAreReadable rest

end

theorem areReadable_eq_all (items : List Value) :
    areReadable items = items.all Value.isReadable := by
  induction items with
  | nil => rfl
  | cons value rest ih => simp [areReadable, ih]

theorem entriesAreReadable_eq_all (entries : List (String × Value)) :
    entriesAreReadable entries = entries.all fun entry => entry.2.isReadable := by
  induction entries with
  | nil => rfl
  | cons entry rest ih => simp [entriesAreReadable, ih]

theorem Value.isReadable_array (items : List Value) :
    (Value.array items).isReadable = items.all Value.isReadable := by
  rw [Value.isReadable, areReadable_eq_all]

theorem Value.isReadable_table (entries : List (String × Value)) :
    (Value.table entries).isReadable = entries.all fun entry => entry.2.isReadable := by
  rw [Value.isReadable, entriesAreReadable_eq_all]

/-! ### Comparing values -/

mutual

/-- Whether two values are the same. -/
def Value.same : Value → Value → Bool
  | .string a, .string b => a = b
  | .integer a, .integer b => a = b
  | .float a, .float b => a = b
  | .boolean a, .boolean b => a = b
  | .unreadable, .unreadable => true
  | .moment a, .moment b => a = b
  | .array as, .array bs => areSame as bs
  | .table as, .table bs => entriesAreSame as bs
  | _, _ => false

/-- Whether two lists hold the same values. -/
def areSame : List Value → List Value → Bool
  | [], [] => true
  | a :: as, b :: bs => a.same b && areSame as bs
  | _, _ => false

/-- Whether two tables hold the same values under the same keys, in the same order. -/
def entriesAreSame : List (String × Value) → List (String × Value) → Bool
  | [], [] => true
  | (key, a) :: as, (key', b) :: bs => key = key' && a.same b && entriesAreSame as bs
  | _, _ => false

end

mutual

theorem Value.same_iff : ∀ a b : Value, a.same b = true ↔ a = b
  | .string _, b | .integer _, b | .float _, b | .boolean _, b | .unreadable, b | .moment _, b => by
    cases b <;> simp [Value.same]
  | .array as, b => by
    cases b <;> simp [Value.same, areSame_iff as]
  | .table as, b => by
    cases b <;> simp [Value.same, entriesAreSame_iff as]

theorem areSame_iff : ∀ as bs : List Value, areSame as bs = true ↔ as = bs
  | [], bs => by
    cases bs <;> simp [areSame]
  | a :: as, bs => by
    cases bs <;> simp [areSame, Value.same_iff a, areSame_iff as]

theorem entriesAreSame_iff :
    ∀ as bs : List (String × Value), entriesAreSame as bs = true ↔ as = bs
  | [], bs => by
    cases bs <;> simp [entriesAreSame]
  | (key, a) :: as, bs => by
    cases bs <;> simp [entriesAreSame, Value.same_iff a, entriesAreSame_iff as, Prod.ext_iff]

end

instance : DecidableEq Value := fun a b => decidable_of_iff _ (Value.same_iff a b)

end CaptureReport.Toml
