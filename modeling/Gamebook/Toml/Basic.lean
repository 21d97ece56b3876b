import Gamebook.Table
import Gamebook.Toml.DateTime

/-!
# TOML values

Settings in front of a text are written in TOML.  A table that has been read lists its entries in
increasing key order, each key once.
-/

namespace Gamebook

/-- A TOML value. -/
inductive Toml
  | integer (value : Int)
  | float (value : Float)
  | bool (value : Bool)
  | string (value : String)
  | dateTime (value : Toml.DateTime)
  | array (items : List Toml)
  | table (entries : List (String × Toml))

namespace Toml

instance : Inhabited Toml := ⟨bool false⟩

/-- The value with the given key in a list of entries. -/
def lookup? (key : String) (entries : List (String × Toml)) : Option Toml :=
  (entries.find? fun entry => entry.1 = key).map Prod.snd

end Toml

end Gamebook
