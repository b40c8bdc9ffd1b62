import CardGateway.Number.Binary64

/-!
# TOML values

Tables keep the order of their entries and remember how they came about, which decides what may still
be added to them.
-/

namespace CardGateway.Toml

open CardGateway.Number

inductive Real where
  | finite (negative : Bool) (magnitude : Binary64)
  | infinite (negative : Bool)
  | nan
  deriving DecidableEq, Repr

inductive Origin where
  /-- Written in braces, and complete. -/
  | inline
  /-- Opened by a header of its own. -/
  | header
  /-- Passed on the way to the table of a header. -/
  | passed
  /-- Passed on the way to the value of a dotted key. -/
  | dotted
  deriving DecidableEq, Repr

inductive Value where
  | text (s : String)
  | integer (n : Int)
  | real (x : Real)
  | flag (b : Bool)
  | date
  | list (items : List Value)
  /-- A list of tables that headers may extend. -/
  | tables (items : List (List (String × Value)))
  | table (origin : Origin) (entries : List (String × Value))

abbrev Entries := List (String × Value)

namespace Entries

def find? : Entries → String → Option Value
  | [], _ => none
  | (name, value) :: rest, key => if name = key then some value else find? rest key

/-- Replaces the value of a key, or puts a new entry last. -/
def put : Entries → String → Value → Entries
  | [], key, value => [(key, value)]
  | (name, old) :: rest, key, value =>
      if name = key then (name, value) :: rest else (name, old) :: put rest key value

theorem find?_put (entries : Entries) (key : String) (value : Value) :
    (put entries key value).find? key = some value := by
  induction entries with
  | nil => simp [put, find?]
  | cons entry rest ih =>
      unfold put
      split
      · next h => simp [find?, h]
      · next h => simp [find?, h, ih]

end Entries

end CardGateway.Toml
