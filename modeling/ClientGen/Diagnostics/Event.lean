import ClientGen.Diagnostics.Level

/-!
Log events, and the text that is recorded for an event that carries several fields.
-/

namespace ClientGen

structure Event where
  level : Level
  target : String
  message : String
deriving DecidableEq, Repr

namespace Event

inductive Value
  | text (s : String)
  | shown (form : String)

def Value.render : Value → String
  | text s => s
  | shown form => form

/-- The field named `message` has the last word; before it the first field stands in. -/
def considerField (chosen : Option String) (field : String × Value) : Option String :=
  if field.1 = "message" ∨ chosen.isNone then some field.2.render else chosen

def messageOf (fields : List (String × Value)) : String :=
  (fields.foldl considerField none).getD ""

end Event

/-! Where the events of the generator come from. -/

namespace Target

def emission : String := "cgraml_core::builder"

def model : String := "cgraml_core::builder::model"

def parameters : String := "cgraml_core::builder::parameters"

def navigation : String := "cgraml_core::linked_data"

def registry : String := "cgraml_core::registry"

def generation : String := "cgraml::generate"

def loading : String := "cgraml::loader"

end Target

end ClientGen
