import MessageBridge.Value.Basic

/-!
# Messages

A message is a selector with one value for each of its arguments.

## Main definitions

* `Message` : a selector and arguments.
* `Message.keywords` : the message of keyword and argument pairs, each keyword with one colon.
-/

namespace MessageBridge

/-- A selector and the arguments that go with it. -/
structure Message where
  selector : String
  args : List Value := []

namespace Message

/-- The keyword with exactly one colon at its end. -/
def withColon (keyword : String) : List Char :=
  (keyword.toList.reverse.dropWhile (· == ':')).reverse ++ [':']

/-- The message whose selector is made of the keywords. -/
def keywords (pairs : List (String × Value)) : Message where
  selector := String.ofList (pairs.flatMap (fun p => withColon p.1))
  args := pairs.map Prod.snd

/-- The message with one more argument. -/
def arg (m : Message) (v : Value) : Message := { m with args := m.args ++ [v] }

/-- Equality of messages. -/
def equals (a b : Message) : Bool := a.selector == b.selector && Value.equalsAll a.args b.args

end Message

end MessageBridge
