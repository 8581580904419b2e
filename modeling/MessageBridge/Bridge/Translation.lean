import MessageBridge.Bridge.Basic

/-!
# Translation in a context

A context translates encodings with the layouts that it knows. It looks up a layout that it does not
know in its metadata and registers it first. That needs another translation, and may in turn need
other layouts.

## Main definitions

* `Act.withStructs` : translates something, loading the layouts that are missing.
* `Act.registerStruct` : registers the layout of a struct encoding.
* `Act.translate`, `Act.parseSignature`, `Act.methodSignature`, `Act.functionSignature` : the
  translations.
-/

namespace MessageBridge

/-- The number of layouts that one translation loads at most. -/
def maxStructLookups : Nat := 16

namespace Act

/-- The encoding of a struct in the metadata of a context. -/
def structEncoding? (ctx : ContextId) (name : String) : Act (Option String) := do
  return (← context ctx).sources.findSome? (·.struct? name)

/-- Translates something. As long as a layout is missing, and up to `lookups` times, its encoding is
looked up and registered, and the translation starts again. -/
def retrying {α : Type} (register : String → Act Layout) (ctx : ContextId)
    (f : Translator → Except Error α) : Nat → Act α
  | 0 => do ofExcept (f (← context ctx).translator)
  | lookups + 1 => do
    match f (← context ctx).translator with
    | .error (.unknownAggregate name) =>
      match ← structEncoding? ctx name with
      | some encoding =>
        let _ ← register encoding
        retrying register ctx f lookups
      | none => fail (.unknownAggregate name)
    | result => ofExcept result

/-- Registers the layout of a struct encoding. The loading of missing layouts is nested at most
`depth` times. -/
def registerWithin (ctx : ContextId) : Nat → String → Act Layout
  | 0, _ => fault .endlessSearch
  | depth + 1, encoding => do
    let layout ← retrying (registerWithin ctx depth) ctx (·.structLayout encoding) maxStructLookups
    modifyContext ctx (fun c => { c with translator := c.translator.insert layout })
    return layout

/-- How deep the loading of layouts can be nested and still end. Between two loads of the same name,
one inside the other, at least one more name must have become known, and the metadata can make known
only as many names as it has entries. -/
def loadingDepth (ctx : ContextId) : Act Nat := do
  let entries := (← context ctx).sources.foldl (fun n source => n + source.structs.length) 0
  return (entries + 1) * (entries + 1)

/-- Translates something with the layouts of a context, loading those that are missing. -/
def withStructs {α : Type} (ctx : ContextId) (f : Translator → Except Error α) : Act α := do
  retrying (registerWithin ctx (← loadingDepth ctx)) ctx f maxStructLookups

/-- Registers the layout of a struct encoding. -/
def registerStruct (ctx : ContextId) (encoding : String) : Act Layout := do
  registerWithin ctx ((← loadingDepth ctx) + 1) encoding

/-- The layout that a context knows under a name. -/
def structLayout? (ctx : ContextId) (name : String) : Act (Option Layout) := do
  return (← context ctx).translator.layout? name

/-- The descriptor of a type encoding. -/
def translate (ctx : ContextId) (encoding : String) : Act Descriptor :=
  withStructs ctx (·.translate encoding)

/-- The signature of a method type string. -/
def parseSignature (ctx : ContextId) (types : String) : Act Signature :=
  withStructs ctx (·.parseSignature types)

/-- The signature of a method whose types are given one by one. -/
def methodSignature (ctx : ContextId) (ret : String) (args : List String) : Act Signature :=
  withStructs ctx (·.signatureOfParts ret args)

/-- The signature of a function whose types are given one by one. -/
def functionSignature (ctx : ContextId) (ret : String) (args : List String) : Act Signature :=
  withStructs ctx (·.functionSignature ret args)

end Act

end MessageBridge
