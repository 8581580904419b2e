import MessageBridge.Space.Roots

/-!
# Entry points

The operations of the object space as native code reaches them. Each takes handles that may be null.

## Main definitions

* `ObjectSpace.addMethod`, `ObjectSpace.replaceMethod`, `ObjectSpace.setImplementation`,
  `ObjectSpace.addIvar`, `ObjectSpace.setSuperclass` : classes.
* `ObjectSpace.addProtocol`, `ObjectSpace.declareMethod`, `ObjectSpace.adoptProtocol`,
  `ObjectSpace.registerProtocol` : protocols.
* `ObjectSpace.associate`, `ObjectSpace.associated` : associations.
* `NullAnswer`, `entryPoints` : what each entry point answers when all its handles are null.
-/

namespace MessageBridge

namespace ObjectSpace

/-! ## Classes -/

/-- Adds a method, and answers whether it was added. -/
def addMethod (s : ObjectSpace) (c : Option ClassId) (sel : Option Selector)
    (imp : Option Implementation) (types : String) : Bool × ObjectSpace :=
  match c, sel, imp with
  | some c, some sel, some imp =>
    match s.classes.addMethod? c sel imp types with
    | some classes => (true, s.withClasses classes)
    | none => (false, s)
  | _, _, _ => (false, s)

/-- Replaces or adds a method, and answers the implementation so far. -/
def replaceMethod (s : ObjectSpace) (c : Option ClassId) (sel : Option Selector)
    (imp : Option Implementation) (types : String) : Option Implementation × ObjectSpace :=
  match c, sel with
  | some c, some sel =>
    let (previous, classes) := s.classes.replaceMethod c sel imp types
    (previous, s.withClasses classes)
  | _, _ => (none, s)

/-- The implementation of a method. -/
def implementation? (s : ObjectSpace) (m : Option MethodRef) : Option Implementation :=
  (m.bind s.classes.method?).bind Method.implementation?

/-- Gives a method another implementation, and answers the one so far. -/
def setImplementation (s : ObjectSpace) (m : Option MethodRef) (imp : Option Implementation) :
    Option Implementation × ObjectSpace :=
  match m, imp with
  | some m, some imp =>
    let (previous, classes) := s.classes.swapImplementation m (some imp)
    (previous, s.withClasses classes)
  | _, _ => (none, s)

/-- Adds an instance variable, and answers whether it was added. -/
def addIvar (s : ObjectSpace) (c : Option ClassId) (name : String) (size : UInt64)
    (exponent : UInt8) (types : String) : Bool × ObjectSpace :=
  match c.bind (fun c => s.classes.addIvar? c name size exponent types) with
  | some classes => (true, s.withClasses classes)
  | none => (false, s)

/-- Moves a class below another one, and answers the superclass so far. -/
def setSuperclass (s : ObjectSpace) (c parent : Option ClassId) : Option ClassId × ObjectSpace :=
  match c, parent with
  | some c, some parent =>
    let (previous, classes) := s.classes.setSuperclass c parent
    (previous, s.withClasses classes)
  | _, _ => (none, s)

/-- Registers a class. -/
def registerClass (s : ObjectSpace) (c : Option ClassId) : ObjectSpace :=
  match c with
  | some c => s.withClasses (s.classes.register c)
  | none => s

/-! ## Protocols -/

/-- Adopts a protocol, and answers whether the class had not adopted it yet. -/
def addProtocol (s : ObjectSpace) (c : Option ClassId) (p : Option ProtocolId) :
    Bool × ObjectSpace :=
  match c, p with
  | some c, some p =>
    match s.classes.adopt? c p with
    | some classes => (true, s.withClasses classes)
    | none => (false, s)
  | _, _ => (false, s)

/-- Allocates a protocol, and answers whether the name was free. -/
def allocateProtocol (s : ObjectSpace) (name : String) : Bool × ObjectSpace :=
  match s.protocols.allocate? name with
  | some (_, protocols) => (true, s.withProtocols protocols)
  | none => (false, s)

/-- Declares a method in a protocol. -/
def declareMethod (s : ObjectSpace) (p : Option ProtocolId) (sel : Option Selector)
    (types : String) (required instanceSide : Bool) : ObjectSpace :=
  match p, sel with
  | some p, some sel =>
    s.withProtocols (s.protocols.declare p ⟨sel, types, required, instanceSide⟩)
  | _, _ => s

/-- Lets a protocol adopt another one. -/
def adoptProtocol (s : ObjectSpace) (p addition : Option ProtocolId) : ObjectSpace :=
  match p, addition with
  | some p, some addition => s.withProtocols (s.protocols.adopt p addition)
  | _, _ => s

/-- Registers a protocol. -/
def registerProtocol (s : ObjectSpace) (p : Option ProtocolId) : ObjectSpace :=
  match p with
  | some p => s.withProtocols (s.protocols.register p)
  | none => s

/-- Whether a protocol reaches another one. The outer `none` stands for a search without an end. -/
def protocolConforms? (s : ObjectSpace) (p q : Option ProtocolId) : Option Bool :=
  match p, q with
  | some p, some q => s.protocols.conforms? p q
  | _, _ => some false

/-- Whether a class conforms to a protocol. The outer `none` stands for a search without an end. -/
def classConforms? (s : ObjectSpace) (c : Option ClassId) (p : Option ProtocolId) : Option Bool :=
  match c, p with
  | some c, some p => s.conforms? c p
  | _, _ => some false

/-! ## Associations -/

/-- Keeps a word for an object under a key, or drops what is there if the word is zero. -/
def associate (s : ObjectSpace) (a : Address) (key value : UInt64) : ObjectSpace :=
  if a = 0 then s
  else
    let t := s.associations
    { s with associations :=
        if value = 0 then t.erase a (.word key) else t.set a (.word key) value.toNat }

/-- The word that is kept for an object under a key, zero if there is none. -/
def associated (s : ObjectSpace) (a : Address) (key : UInt64) : Nat :=
  (s.associations.get? a (.word key)).getD 0

/-- Drops all that is kept for an object. -/
def dissociate (s : ObjectSpace) (a : Address) : ObjectSpace :=
  { s with associations := s.associations.clear a }

/-! ## Selectors -/

/-- The name of the selector that bytes name, if they are valid text. -/
def registerSelector (s : ObjectSpace) (bytes : List UInt8) : Option String × ObjectSpace :=
  match Text.ofUtf8? (bytes.takeWhile (· != 0)) with
  | some name =>
    let (sel, s) := s.intern name
    (some (s.selectors.name sel), s)
  | none => (none, s)

end ObjectSpace

/-! ## Null handles -/

/-- What an entry point answers when its handles are null. -/
inductive NullAnswer where
  /-- The null address. -/
  | null
  /-- An address that is not null. -/
  | code
  /-- No text. -/
  | noText
  /-- A text. -/
  | text (s : String)
  /-- A truth value. -/
  | truth (b : Bool)
  /-- The number zero. -/
  | zero
  /-- No list, and a count of zero. -/
  | noList
deriving DecidableEq, Repr

/-- The entry points with what they answer when all their handles are null. -/
def entryPoints : List (String × NullAnswer) :=
  [("get_class", .null), ("allocate_class", .null), ("class_name", .text "nil"),
    ("superclass", .null), ("set_superclass", .null), ("meta", .truth false), ("size", .zero),
    ("version", .zero), ("add_method", .truth false), ("replace_method", .null),
    ("add_ivar", .truth false), ("methods", .noList), ("ivars", .noList),
    ("instance_method", .null), ("class_method", .null), ("instance_variable", .null),
    ("class_variable", .null), ("layout", .null), ("weak_layout", .null),
    ("responds", .truth false), ("create", .null), ("dispose", .null), ("object_class", .null),
    ("object_set_class", .null), ("object_class_name", .text "nil"), ("is_class", .truth false),
    ("indexed", .null), ("method_name", .null), ("method_imp", .null), ("method_set_imp", .null),
    ("method_types", .noText), ("method_count", .zero), ("method_ret", .noText),
    ("method_arg", .noText), ("ivar_name", .noText), ("ivar_offset", .zero),
    ("ivar_types", .noText), ("allocate_protocol", .null), ("get_protocol", .null),
    ("protocol_name", .noText), ("protocol_methods", .null), ("protocol_conforms", .truth false),
    ("add_protocol", .truth false), ("conforms", .truth false), ("protocols", .noList),
    ("assoc", .null), ("lookup", .code), ("take", .null), ("sel_register", .null),
    ("sel_name", .noText), ("sel_equal", .truth true)]

end MessageBridge
