import MessageBridge.Bridge.Dispatch
import MessageBridge.Bridge.Methods

/-!
# Evaluating bodies

What a host body does when it is called.

## Main definitions

* `Activation` : the receiver and the arguments of one call of a body.
* `Act.named`, `Act.evalLiteral` : names and written values.
* `Body.eval` : the value of a body.
-/

namespace MessageBridge

namespace Act

/-- The object that goes under a name: one that the host gave the name to, or the class of the
name. -/
def named (ctx : ContextId) (name : String) : Act ObjectRef := do
  match (← get).names.lookup name with
  | some r => return r
  | none =>
    match ← classNamed? ctx name with
    | some r => return r
    | none => fail (.unresolvedName name)

/-- The layout of the struct that an encoding denotes, also behind a pointer. -/
def layoutOf (ctx : ContextId) (encoding : String) : Act Layout := do
  match (← translate ctx encoding).layout? with
  | some l => return l
  | none => fail (.malformedEncoding encoding "expected a struct encoding")

/-- The value of a literal. -/
def evalLiteral (ctx : ContextId) (l : Literal) : Act Value :=
  l.eval (layoutOf ctx) (fun name => return .object (← named ctx name))

/-- Writes a value to the trace. -/
def log (v : Value) : Act Unit := modify (fun b => { b with trace := v :: b.trace })

end Act

/-- One call of a body. -/
structure Activation where
  reentry : Reentry
  context : ContextId
  receiver : ObjectRef
  args : List Value

namespace Value

/-- The truth of a value as a condition: its own, or that it is not nil. -/
def isTrue (v : Value) : Bool := v.toBool?.getD (!v.isNil)

/-- The text of a value as a part of a longer text. -/
def partText (v : Value) : String := v.toText?.getD v.render

end Value

namespace Body

open Act

mutual

/-- The value of a body in a call. -/
def eval (a : Activation) : Body → Act Value
  | .literal l => evalLiteral a.context l
  | .receiver => pure (.object a.receiver)
  | .argument i => pure (a.args[i]?.getD .nil)
  | .ivar name => Act.ivar a.context a.receiver name
  | .setIvar name e => do
    let v ← eval a e
    Act.setIvar a.context a.receiver name v
    return .nil
  | .add e f => do
    let v ← eval a e
    let w ← eval a f
    return .int (v.toInt64?.getD 0 + w.toInt64?.getD 0)
  | .addFloat e f => do
    let v ← eval a e
    let w ← eval a f
    return .float (.add (v.toFloat?.getD ⟨0⟩) (w.toFloat?.getD ⟨0⟩))
  | .concat es => do
    let vs ← evalAll a es
    return .str (String.join (vs.map Value.partText))
  | .equal e f => do
    let v ← eval a e
    let w ← eval a f
    return .bool (v.equals w)
  | .cond c e f => do
    let v ← eval a c
    if v.isTrue then eval a e else eval a f
  | .seq es => do
    let vs ← evalAll a es
    return vs.getLast?.getD .nil
  | .log e => do
    let v ← eval a e
    Act.log v
    return v
  | .send e selector es => do
    let v ← eval a e
    let args ← evalAll a es
    match v with
    | .object r => sendVia a.reentry a.context r { selector, args }
    | _ => return .nil
  | .superOf className selector es => do
    let c ← named a.context className
    let args ← evalAll a es
    sendSuperOfVia a.reentry a.context a.receiver c { selector, args }
  | .superSend selector es => do
    let args ← evalAll a es
    sendSuperVia a.reentry a.context a.receiver { selector, args }
  | .field e name => do
    let v ← eval a e
    return (v.fieldNamed? name).getD .nil
  | .withField e name f => do
    let v ← eval a e
    let w ← eval a f
    return (v.setField? name w).getD v
  | .attempt e => recover (eval a e) (fun err => pure (.str err.kindName))
  | .throw e => do
    let v ← eval a e
    changeSpace (fun s => some (s.throw ((v.toObject?.map (·.address)).getD 0)))
    return .nil
  | .define selector types body => do
    if a.receiver.isClass then addMethod a.context a.receiver selector types body
    return .nil
  | .defineClass selector types body => do
    if a.receiver.isClass then
      match ← classOf a.context a.receiver with
      | some k => addMethod a.context k selector types body
      | none => pure ()
    return .nil
  | .fail e => Act.fail e
  | .panic text => Act.panic text

/-- The values of several bodies, from the left. -/
def evalAll (a : Activation) : List Body → Act (List Value)
  | [] => pure []
  | e :: es => do
    let v ← eval a e
    let vs ← evalAll a es
    return v :: vs

end

end Body

end MessageBridge
