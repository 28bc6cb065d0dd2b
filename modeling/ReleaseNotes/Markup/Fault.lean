/-!
# Faults of a document

Why a text is not a well-formed document. Every cause has its wording here and
nowhere else.
-/

namespace ReleaseNotes.Markup

/-- Why a text is not a well-formed document. -/
inductive Fault where
  /-- There is no root element. -/
  | empty
  /-- The octets are not text in the encoding of the document. -/
  | undecodable
  /-- The document declares an encoding that is not known here. -/
  | unknownEncoding (name : String)
  /-- Something else was needed at this point. -/
  | expected (what : String)
  /-- A character stands where it must not. -/
  | illegal (what : String)
  /-- An element is closed under a name that is not its own. -/
  | mismatched (opened closed : String)
  /-- An element is not closed. -/
  | unclosed (name : String)
  /-- An element has two attributes of one name. -/
  | repeatedAttribute (name : String)
  /-- An entity is referred to and not declared. -/
  | undeclaredEntity (name : String)
  /-- An entity is referred to where it must not be. -/
  | badEntity (name : String)
  /-- A namespace or a prefix is used against the rules. -/
  | badNamespace (name : String)
  /-- The elements are nested too deep. -/
  | tooDeep
  /-- Something follows the root element. -/
  | trailing
  deriving DecidableEq, Repr

/-- The wording of a fault. -/
def Fault.message : Fault → String
  | .empty => "the document has no root element"
  | .undecodable => "the octets are not text in the encoding of the document"
  | .unknownEncoding name => "the encoding '" ++ name ++ "' is not known"
  | .expected what => "expected " ++ what
  | .illegal what => what ++ " must not stand here"
  | .mismatched opened closed => "the end tag '" ++ closed ++ "' does not close '" ++ opened ++ "'"
  | .unclosed name => "the element '" ++ name ++ "' is not closed"
  | .repeatedAttribute name => "the attribute '" ++ name ++ "' is repeated"
  | .undeclaredEntity name => "the entity '" ++ name ++ "' is not declared"
  | .badEntity name => "the entity '" ++ name ++ "' must not be referred to here"
  | .badNamespace name => "the namespace of '" ++ name ++ "' is not properly declared"
  | .tooDeep => "the elements are nested too deep"
  | .trailing => "something follows the root element"

end ReleaseNotes.Markup
