import MessageBridge.Number.Word

/-!
# Implementations

What a method runs: a routine of the object space, a body of the host, or a function of a library.

## Main definitions

* `Routine` : the routines of the root classes.
* `LibraryFunction` : the functions that libraries export.
* `Implementation` : all code that a call can reach.
-/

namespace MessageBridge

/-- The routines behind the methods of the root classes. -/
inductive Routine where
  /-- Answers the receiver. -/
  | itself
  /-- Answers the class of the receiver. -/
  | classOf
  /-- Answers the superclass of the class of the receiver. -/
  | superclassOf
  /-- Answers whether the argument is the receiver. -/
  | isIdentical
  /-- Answers the address of the receiver. -/
  | hash
  /-- Answers whether the receiver has a method for the selector. -/
  | respondsTo
  /-- Answers whether the argument is on the class chain of the receiver. -/
  | isKindOf
  /-- Answers whether the argument is the class of the receiver. -/
  | isMemberOf
  /-- Sends the selector to the receiver. -/
  | perform
  /-- Disposes of the receiver. -/
  | dispose
  /-- Answers a new instance of the receiver. -/
  | newInstance
  /-- Answers a new instance of the receiver after sending it `init`. -/
  | newInitialized
  /-- Answers the superclass of the receiver, which is a class. -/
  | superclassOfClass
  /-- Answers the version of the receiver. -/
  | version
  /-- Answers whether instances of the receiver have a method for the selector. -/
  | instancesRespondTo
  /-- Answers that no method was installed. -/
  | resolveNothing
  /-- Answers a new instance of the receiver with copies of a name and a reason. -/
  | newException
  /-- Answers the name of an exception. -/
  | exceptionName
  /-- Answers the reason of an exception. -/
  | exceptionReason
  /-- Raises the receiver. -/
  | raise
  /-- Releases the texts of an exception and disposes of it. -/
  | disposeException
deriving DecidableEq, Repr

/-- The functions that libraries export. -/
inductive LibraryFunction where
  | strlen
  | abs
  | labs
  | toupper
  | atoi
  | div
  | ldiv
  | copysign
deriving DecidableEq, Repr

namespace LibraryFunction

/-- All of them. -/
def all : List LibraryFunction := [strlen, abs, labs, toupper, atoi, div, ldiv, copysign]

/-- The exported name. -/
def symbol : LibraryFunction → String
  | strlen => "strlen"
  | abs => "abs"
  | labs => "labs"
  | toupper => "toupper"
  | atoi => "atoi"
  | div => "div"
  | ldiv => "ldiv"
  | copysign => "copysign"

end LibraryFunction

/-- Code that a call can reach. -/
inductive Implementation where
  /-- What a null receiver answers to everything: nothing. -/
  | nilMethod
  /-- Raises an exception for a selector without a method. -/
  | forwarding
  /-- A routine of the root classes. -/
  | routine (r : Routine)
  /-- Answers a fixed number. -/
  | constant (value : Int64)
  /-- Answers the receiver. It is told apart from the routine of the root class. -/
  | receiver
  /-- Answers the argument plus one. -/
  | successor
  /-- The host body with this number. -/
  | hosted (index : Nat)
  /-- A function of a library. -/
  | library (f : LibraryFunction)
  /-- A variable that was taken for code. -/
  | variable
deriving DecidableEq, Repr

end MessageBridge
