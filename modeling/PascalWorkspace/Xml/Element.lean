/-! The elements of an XML document: tag, attributes and child elements. Text between the elements
is of no interest here and is not kept. -/
namespace PascalWorkspace.Xml

/-- A tag in a name space is written with the name space in braces in front. -/
structure Element where
  tag : String
  attributes : List (String × String)
  children : List Element

namespace Element

/-- The first child with a tag. -/
def child? (e : Element) (tag : String) : Option Element := e.children.find? (·.tag == tag)

def attribute? (e : Element) (name : String) : Option String := e.attributes.lookup name

/-- The value of an attribute, empty if there is none. -/
def value (e : Element) (name : String) : String := (e.attribute? name).getD ""

end Element

/-- The value of an attribute of the first child with a tag, empty if any link is missing. -/
def childValue (parent : Option Element) (tag : String) (name : String) : String :=
  ((parent.bind (·.child? tag)).map (·.value name)).getD ""

end PascalWorkspace.Xml
