import MessageBridge.ObjectRef
import MessageBridge.Text.Quoted

/-!
# Errors

What can go wrong in the bridge, one constructor per cause, with the message of each.

## Main definitions

* `Error` : the causes.
* `Error.kindName`, `Error.message` : the name of the cause and the text shown to a user.
-/

namespace MessageBridge

/-- Why an operation of the bridge failed. -/
inductive Error where
  /-- A type encoding does not match the grammar. -/
  | malformedEncoding (encoding reason : String)
  /-- A well-formed encoding describes a shape that cannot be passed. -/
  | unsupportedType (encoding : String)
  /-- A struct passed by value names a layout that nobody registered. -/
  | unknownAggregate (name : String)
  /-- A method signature lacks the receiver and the selector. -/
  | invalidSignature (signature : String)
  /-- A message or function call supplied the wrong number of arguments. -/
  | argumentCountMismatch (selector : String) (expected got : Nat)
  /-- An argument value cannot be converted to its declared type. -/
  | argumentTypeMismatch (index : Nat) (expected found : String)
  /-- Nothing answers the selector and no signature may be assumed for it. -/
  | unrecognizedSelector (selector : String)
  /-- A class pair could not be allocated. -/
  | classAllocation (name : String)
  /-- A method could not be added. -/
  | methodRegistration (className selector : String)
  /-- An instance variable could not be added. -/
  | ivarRegistration (className name : String)
  /-- A class was changed after its registration. -/
  | invalidState (className operation : String)
  /-- An exception was raised during a call. -/
  | exception (raised : ObjectRef) (name reason : Option String)
  /-- A host method body broke off. -/
  | callback (selector reason : String)
  /-- A name holds a NUL character and cannot be passed as a C string. -/
  | invalidName (name : String)
  /-- No instance variable of this name is on the class chain of the object. -/
  | ivarNotFound (name : String)
  /-- A name is neither a class nor described by any metadata. -/
  | unresolvedName (name : String)
  /-- A symbol is missing from every loaded library. -/
  | symbolNotFound (symbol : String)
  /-- A shared library could not be opened. -/
  | library (path reason : String)
deriving DecidableEq, Repr

namespace Error

/-- The name of the cause. -/
def kindName : Error → String
  | malformedEncoding .. => "MalformedEncoding"
  | unsupportedType .. => "UnsupportedType"
  | unknownAggregate .. => "UnknownAggregate"
  | invalidSignature .. => "InvalidSignature"
  | argumentCountMismatch .. => "ArgumentCountMismatch"
  | argumentTypeMismatch .. => "ArgumentTypeMismatch"
  | unrecognizedSelector .. => "UnrecognizedSelector"
  | classAllocation .. => "ClassAllocation"
  | methodRegistration .. => "MethodRegistration"
  | ivarRegistration .. => "IvarRegistration"
  | invalidState .. => "InvalidState"
  | exception .. => "Exception"
  | callback .. => "Callback"
  | invalidName .. => "InvalidName"
  | ivarNotFound .. => "IvarNotFound"
  | unresolvedName .. => "UnresolvedName"
  | symbolNotFound .. => "SymbolNotFound"
  | library .. => "Library"

/-- The text shown to a user. -/
def message : Error → String
  | malformedEncoding encoding reason => s!"Malformed type encoding '{encoding}': {reason}"
  | unsupportedType encoding => s!"Unsupported type encoding '{encoding}'"
  | unknownAggregate name => s!"No layout registered for struct '{name}'"
  | invalidSignature signature =>
    s!"Invalid types string '{signature}': expected '@' and ':' after the return type"
  | argumentCountMismatch selector expected got =>
    s!"Argument count mismatch for '{selector}': expected {expected}, got {got}"
  | argumentTypeMismatch index expected found =>
    s!"Argument type mismatch at index {index}: expected '{expected}', got {found}"
  | unrecognizedSelector selector => s!"No method signature known for selector '{selector}'"
  | classAllocation name => s!"Could not allocate class '{name}'"
  | methodRegistration className selector =>
    s!"Could not add method '{selector}' to class '{className}'"
  | ivarRegistration className name => s!"Could not add ivar '{name}' to class '{className}'"
  | invalidState className operation =>
    s!"Cannot {operation} on class '{className}': it is already registered"
  | exception raised name reason =>
    let raiser := name.getD "exception" ++ " raised by " ++ raised.describe
    match reason with
    | some reason => s!"{raiser}: {reason}"
    | none => raiser
  | callback selector reason => s!"Method implementation for '{selector}' failed: {reason}"
  | invalidName name => s!"Name {Text.quote name} contains an interior NUL byte"
  | ivarNotFound name => s!"No ivar named '{name}'"
  | unresolvedName name => s!"'{name}' is not a class or a known symbol"
  | symbolNotFound symbol => s!"Symbol '{symbol}' not found in any loaded library"
  | library path reason => s!"Could not load library '{path}': {reason}"

end Error

end MessageBridge
