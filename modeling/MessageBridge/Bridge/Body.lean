import MessageBridge.Encoding.Signature
import MessageBridge.Space.Association
import MessageBridge.Value.Literal

/-!
# Host method bodies

A body is an expression over the receiver and the arguments of a call. It is evaluated anew on each
call.

## Main definitions

* `Body` : the expressions.
* `Hosted` : a body with the signature under which native code calls it.
-/

namespace MessageBridge

/-- An expression that a method evaluates. Unless an entry says otherwise, parts are evaluated from
the left and the failure of a part is the failure of the whole. -/
inductive Body where
  /-- A written value. -/
  | literal (l : Literal)
  /-- The receiver. -/
  | receiver
  /-- A declared argument, nil beyond the last one. -/
  | argument (index : Nat)
  /-- The value of an instance variable of the receiver. -/
  | ivar (name : String)
  /-- Sets an instance variable of the receiver; nil. -/
  | setIvar (name : String) (value : Body)
  /-- The wrapping sum of two integers, with zero for what is no integer in range. -/
  | add (a b : Body)
  /-- The sum of two numbers as doubles, with zero for what is no number. -/
  | addFloat (a b : Body)
  /-- The texts of the parts joined. -/
  | concat (parts : List Body)
  /-- Whether two values are equal. -/
  | equal (a b : Body)
  /-- One of two branches, by the truth of the condition. -/
  | cond (condition yes no : Body)
  /-- The value of the last part. -/
  | seq (parts : List Body)
  /-- Writes the value to the trace, and yields it. -/
  | log (value : Body)
  /-- Sends a message; nil if the receiver is no object. -/
  | send (receiver : Body) (selector : String) (args : List Body)
  /-- Sends a message to the receiver, starting above the class. -/
  | superOf (className selector : String) (args : List Body)
  /-- Sends a message to the receiver, starting above its class. -/
  | superSend (selector : String) (args : List Body)
  /-- A field of a struct, nil if there is none of the name. -/
  | field (value : Body) (name : String)
  /-- A struct with one field replaced. -/
  | withField (value : Body) (name : String) (new : Body)
  /-- The value, or the name of the kind of the error that it fails with. -/
  | attempt (value : Body)
  /-- Raises an object as an exception; nil. -/
  | throw (value : Body)
  /-- Adds a method to the receiver if it is a class; nil. -/
  | define (selector types : String) (body : Body)
  /-- Adds a method to the class of the receiver if the receiver is a class; nil. -/
  | defineClass (selector types : String) (body : Body)
  /-- Fails with the error. -/
  | fail (e : Error)
  /-- Breaks off with a text. -/
  | panic (text : String)

instance : Inhabited Body := ⟨.receiver⟩

/-- A body that native code can call: the context that registered it, the selector and the signature
that it was registered with. -/
structure Hosted where
  context : ContextId
  selector : String
  signature : Signature
  body : Body

end MessageBridge
