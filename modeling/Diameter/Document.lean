/-!
# Documents

A document is what a configuration text says, whatever its notation: a tree of values.
Values that no setting can take are kept apart only as far as their place matters.
-/

namespace Diameter

/-- A value of a configuration text. -/
inductive Document where
  /-- No value. -/
  | null
  /-- A truth value. -/
  | flag (value : Bool)
  /-- A whole number. -/
  | integer (value : Int)
  /-- A number that is not whole. -/
  | fraction
  /-- A date or a time. -/
  | moment
  /-- Text. -/
  | text (value : String)
  /-- Values in order. -/
  | list (values : List Document)
  /-- Values by key. -/
  | table (fields : List (String × Document))
  deriving Repr, Inhabited

end Diameter
