/-!
# Scope-bearing nodes

Five kinds of syntax nodes open a scope. Of these only protocols and type declarations are
described; a cursor in a function or a property is reported at the top.
-/

set_option autoImplicit false

namespace Enclosure

/-- The kinds of nodes that open a scope. A struct, a class, an enum and an actor are all class
declarations. -/
inductive ScopeKind
  | protocolDeclaration
  | classDeclaration
  | functionDeclaration
  | propertyDeclaration
  | computedProperty
deriving DecidableEq

namespace ScopeKind

/-- All kinds. -/
def all : List ScopeKind :=
  [.protocolDeclaration, .classDeclaration, .functionDeclaration, .propertyDeclaration,
    .computedProperty]

/-- The kind of node that a grammar reports. -/
def nodeKind : ScopeKind → String
  | .protocolDeclaration => "protocol_declaration"
  | .classDeclaration => "class_declaration"
  | .functionDeclaration => "function_declaration"
  | .propertyDeclaration => "property_declaration"
  | .computedProperty => "computed_property"

/-- The name under which a kind is shown. -/
def name : ScopeKind → String
  | .protocolDeclaration => "PROTOCOL_DECLARATION"
  | .classDeclaration => "CLASS_DECLARATION"
  | .functionDeclaration => "FUNCTION_DECLARATION"
  | .propertyDeclaration => "PROPERTY_DECLARATION"
  | .computedProperty => "COMPUTED_PROPERTY"

/-- The scope that a kind of node opens, if it opens one. -/
def ofNodeKind? (kind : String) : Option ScopeKind :=
  all.find? fun k => k.nodeKind = kind

/-- Every kind is found by the node that opens it. -/
theorem ofNodeKind?_nodeKind (k : ScopeKind) : ofNodeKind? k.nodeKind = some k := by
  cases k <;> decide

end ScopeKind

end Enclosure
