/-!
# JSON values

A JSON value as it is written: numbers keep their text, and the members of an object keep their
order and may repeat a name.

`unreadable` stands for well-formed JSON that denotes no value here: a text that escapes one half
of a surrogate pair without the other, or an object with such a text as a name.  Such JSON may
stand where a value is skipped.
-/

namespace Sift

/-- A JSON value. -/
inductive Json where
  | null
  | bool (b : Bool)
  | number (literal : String)
  | text (s : String)
  | array (items : List Json)
  | object (members : List (String × Json))
  | unreadable
  deriving Repr, Inhabited

/-- A JSON number without fraction. -/
def Json.ofNat (n : Nat) : Json :=
  .number (toString n)

/-- A JSON number without fraction. -/
def Json.ofInt (n : Int) : Json :=
  .number (toString n)

end Sift
