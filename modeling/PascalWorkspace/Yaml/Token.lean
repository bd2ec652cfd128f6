import PascalWorkspace.Text.Wide
import PascalWorkspace.Yaml.Cursor

/-! What a YAML text is made of. -/
namespace PascalWorkspace.Yaml

/-- What breaks a reader off at a document that is well formed. -/
inductive Fault where
  /-- A number or date is out of its range or not one at all. -/
  | noValue
  /-- A number has no digits. -/
  | noDigits
  /-- A word is none of those for true and false. -/
  | unknownWord
  /-- A text is not written like a point in time. -/
  | notTimestamp
  /-- A point in time is not given as a text. -/
  | notText
  /-- A number does not fit. -/
  | tooLarge
  /-- There is no room for as many nested calls as the document asks for. -/
  | tooDeep
  deriving DecidableEq, Repr

inductive Error where
  /-- The text is not YAML, or holds what a plain document does not. -/
  | malformed
  | fault (fault : Fault)
  deriving DecidableEq, Repr

inductive Token where
  | streamEnd
  | versionDirective (major : Nat)
  | tagDirective (handle : String) (meaning : String)
  | otherDirective
  | documentStart
  | documentEnd
  | blockSequenceStart
  | blockMappingStart
  | blockEnd
  | flowSequenceStart
  | flowSequenceEnd
  | flowMappingStart
  | flowMappingEnd
  | key
  | value
  | blockEntry
  | flowEntry
  | alias (name : String)
  | anchor (name : String)
  | tag (handle : Option String) (suffix : String)
  | scalar (text : Text.Wide) (plain : Bool)
  /-- No token can be read from here on. -/
  | broken (error : Error)
  deriving DecidableEq, Repr

end PascalWorkspace.Yaml
