import PascalWorkspace.Text.Wide

/-! JSON values, as requests hold them and as answers are written. -/
namespace PascalWorkspace.Json

inductive Value where
  | null
  | bool (b : Bool)
  /-- The number `mantissa · 10 ^ (-decimals)`. -/
  | number (mantissa : Int) (decimals : Nat)
  | text (s : Text.Wide)
  | array (items : List Value)
  /-- Members keep their order. -/
  | object (members : List (Text.Wide × Value))
  deriving Inhabited

/-- The members of an object, with their names. -/
abbrev Members := List (Text.Wide × Value)

namespace Value

def integer (n : Int) : Value := .number n 0

def texts (items : List String) : Value := .array (items.map fun (s : String) => .text s)

/-- The value of a member of an object; a member that is missing is null. -/
def member (members : Members) (name : String) : Value := (members.lookup (.plain name)).getD .null

end Value

end PascalWorkspace.Json
