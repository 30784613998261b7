import TaskDriver.Keyed
import TaskDriver.Toml.Datetime

/-! Values of a file of settings. A table has each key once. -/
namespace TaskDriver.Toml

inductive Value
  | string (s : String)
  | integer (i : Int)
  | float (x : Number.Binary64)
  | boolean (b : Bool)
  | datetime (d : Datetime)
  | array (items : List Value)
  | table (entries : List (String × Value))
  deriving Inhabited

abbrev Table := Keyed Value

def Value.isTable : Value → Bool
  | .table _ => true
  | _ => false

/-- The key of a table with one entry that stands for the date and time written in that entry. -/
def datetimeKey : String := "$__toml_private_datetime"

end TaskDriver.Toml
