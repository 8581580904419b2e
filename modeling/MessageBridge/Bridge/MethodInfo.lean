import MessageBridge.Bridge.Handles
import MessageBridge.Bridge.Translation
import MessageBridge.Encoding.Token

/-!
# Methods as a context sees them

The type string of a method is stored as it was given. The object space only cuts it into tokens and
hands out copies of these; the context gives each copy back and translates it.

## Main definitions

* `Act.borrowing`, `Act.borrowList` : reading what the object space copied, and giving it back.
* `Act.returnType`, `Act.argumentTypes` : the tokens of a method.
* `Act.methodTypes` : the signature of a method.
-/

namespace MessageBridge.Act

/-! ## Buffers -/

/-- Takes a buffer from the object space, uses it and gives it back. -/
def borrowing {α : Type} (use : Act α) : Act α := do
  let (buffer, loans) := (← get).loans.lend
  modify (fun b => { b with loans })
  let a ← use
  modify (fun b => { b with loans := b.loans.takeBack buffer })
  return a

/-- A copied text, which is given back at once. Where there is no text there is no buffer. -/
def borrowText (text : Option String) : Act (Option String) :=
  match text with
  | some t => borrowing (pure (some t))
  | none => pure none

/-- Converts the entries of a copied list, which is given back afterwards. An empty list has no
buffer. -/
def borrowList {α β : Type} (items : List α) (convert : α → Act (Option β)) : Act (List β) :=
  if items.isEmpty then pure []
  else borrowing (return (← items.mapM convert).filterMap id)

/-- The number of buffers that were given back so far. -/
def returnedCount : Act Nat := return (← get).loans.returned.length

/-! ## Types -/

/-- The method of a reference. -/
def methodOf (m : MethodRef) : Act (Option Method) := fromSpace (·.classes.method? m)

/-- The name of a method. -/
def methodName (m : MethodRef) : Act String := fromSpace (·.selectors.name m.selector)

/-- The type string as it was given. Some contexts cannot read it. -/
def typeString (ctx : ContextId) (m : MethodRef) : Act (Option String) := do
  if (← context ctx).capabilities.typed then return (← methodOf m).map Method.types
  else return none

/-- The tokens of the type string, none if it is cut short. -/
def typeTokens (m : MethodRef) : Act (List String) := do
  match Token.cut (((← methodOf m).map Method.types).getD "") with
  | .ok tokens => return tokens
  | .error .truncated => return []
  | .error .insideCharacter => fault .insideCharacter

/-- The number of arguments, the receiver and the selector included. -/
def argumentCount (m : MethodRef) : Act Nat := return (← typeTokens m).length - 1

/-- The encoding of the result. -/
def returnType (m : MethodRef) : Act (Option String) := do
  borrowText (← typeTokens m).head?

/-- The encoding of an argument. Its position is counted in 32 bits. -/
def argumentType (m : MethodRef) (index : Nat) : Act (Option String) := do
  if index < 0x100000000 then borrowText (← typeTokens m)[index + 1]? else return none

/-- The encodings of the arguments. -/
def argumentTypes (m : MethodRef) : Act (List String) := do
  return (← (List.range (← argumentCount m)).mapM (argumentType m)).filterMap id

/-- The signature of a method. -/
def methodTypes (ctx : ContextId) (m : MethodRef) : Act Signature := do
  match ← returnType m with
  | some ret => methodSignature ctx ret (← argumentTypes m)
  | none => fail (.invalidSignature ((← typeString ctx m).getD ""))

end MessageBridge.Act
