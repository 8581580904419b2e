/-!
# Metadata

Descriptions of what a library offers: constants, functions, structs and enumerators by name.

## Main definitions

* `Metadata` : the descriptions of one library.
* `Metadata.addConstant`, `Metadata.addFunction`, `Metadata.addStruct`, `Metadata.addEnumerator` :
  filling it; a later description of a name replaces an earlier one of the same kind.
* `Metadata.constant?`, `Metadata.function?`, `Metadata.struct?`, `Metadata.enumerator?` : looking
  names up.
-/

namespace MessageBridge

/-- A constant, with its bytes, or without them if they are to be read from a symbol. -/
structure Constant where
  encoding : String
  bytes? : Option (List UInt8)
deriving DecidableEq, Repr

/-- The type encodings of a function. -/
structure FunctionType where
  ret : String
  args : List String
deriving DecidableEq, Repr

/-- The descriptions of one library. Of several entries under a name the first counts. -/
structure Metadata where
  library : String
  constants : List (String × Constant) := []
  functions : List (String × FunctionType) := []
  structs : List (String × String) := []
  enumerators : List (String × Int64) := []

namespace Metadata

/-- Describes a constant. -/
def addConstant (m : Metadata) (name encoding : String) (bytes? : Option (List UInt8)) : Metadata :=
  { m with constants := (name, ⟨encoding, bytes?⟩) :: m.constants }

/-- Describes a function. -/
def addFunction (m : Metadata) (name ret : String) (args : List String) : Metadata :=
  { m with functions := (name, ⟨ret, args⟩) :: m.functions }

/-- Describes a struct by its encoding. -/
def addStruct (m : Metadata) (name encoding : String) : Metadata :=
  { m with structs := (name, encoding) :: m.structs }

/-- Describes an enumerator. -/
def addEnumerator (m : Metadata) (name : String) (value : Int64) : Metadata :=
  { m with enumerators := (name, value) :: m.enumerators }

/-- The constant of a name. -/
def constant? (m : Metadata) (name : String) : Option Constant := m.constants.lookup name

/-- The function of a name. -/
def function? (m : Metadata) (name : String) : Option FunctionType := m.functions.lookup name

/-- The encoding of the struct of a name. -/
def struct? (m : Metadata) (name : String) : Option String := m.structs.lookup name

/-- The enumerator of a name. -/
def enumerator? (m : Metadata) (name : String) : Option Int64 := m.enumerators.lookup name

end Metadata

end MessageBridge
