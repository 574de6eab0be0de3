/-!
# Tags

A tag is an address that tells what a node means. It is written in ASCII, but escapes
can put any octets into it, and so it need not be a text. A zero octet ends it.
-/

namespace StreamPlot.Markup

/-- What a tag can say that a scalar is to be read as. -/
inductive ScalarType where
  | nothing
  | boolean
  | integer
  | float
  deriving DecidableEq, Repr, Inhabited

/-- A tag, or a part of one. -/
structure Tag where
  octets : List UInt8
  deriving DecidableEq, Repr, Inhabited

namespace Tag

/-- The tag that ends before the first zero octet. -/
def ofOctets (octets : List UInt8) : Tag := ⟨octets.takeWhile (· != 0)⟩

def ofText (text : String) : Tag := ofOctets text.toUTF8.data.toList

def isEmpty (tag : Tag) : Bool := tag.octets.isEmpty

/-- A tag whose beginning is given by another. -/
def append (first rest : Tag) : Tag := ⟨first.octets ++ rest.octets⟩

/-- The tag of a document's own that has no name. -/
def plainMark : Tag := ofText "!"

/-- What all tags begin with that the language itself gives a meaning. -/
def standard : Tag := ofText "tag:yaml.org,2002:"

/-- The kind of scalar that a tag asks for. -/
def scalarType? (tag : Tag) : Option ScalarType :=
  if tag == standard.append (ofText "bool") then some .boolean
  else if tag == standard.append (ofText "int") then some .integer
  else if tag == standard.append (ofText "float") then some .float
  else if tag == standard.append (ofText "null") then some .nothing
  else none

/-- Whether a tag is of the document's own. -/
def isLocal (tag : Tag) : Bool := tag.octets.head? == some 33

/-- The name in a tag of the document's own, if it is a text. Without a name it is the
mark itself. -/
def localName? (tag : Tag) : Option String :=
  if !tag.isLocal then none
  else
    let name := tag.octets.drop 1
    String.fromUTF8? ⟨(if name.isEmpty then tag.octets else name).toArray⟩

end Tag

end StreamPlot.Markup
