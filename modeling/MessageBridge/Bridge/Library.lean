import MessageBridge.Error
import MessageBridge.Space.Implementation

/-!
# Native libraries

Libraries that export functions and variables. Every library that can be opened is linked against the
C library, so that all of them export the same symbols.

## Main definitions

* `NativeLibrary` : an open library; `NativeLibrary.openFile`, `NativeLibrary.process`.
* `Symbol`, `NativeLibrary.symbol?` : what a name stands for in a library.
-/

namespace MessageBridge

/-- An exported symbol. -/
inductive Symbol where
  /-- A function. -/
  | function (f : LibraryFunction)
  /-- A variable that holds the address of a table outside the object space. -/
  | variable
deriving DecidableEq, Repr

/-- The address that the variables of libraries hold. No object is there. -/
def foreignAddress : UInt64 := 0x7ffffff00000

/-- An open library. -/
structure NativeLibrary where
  name : String
deriving DecidableEq, Repr

namespace NativeLibrary

/-- The running process. -/
def process : NativeLibrary := ⟨"<process>"⟩

/-- The files that can be opened; the empty path stands for the process. -/
def files : List String := ["", "libc.so.6", "libm.so.6"]

/-- Opens a library. -/
def openFile (path : String) : Except Error NativeLibrary :=
  if files.contains path then .ok ⟨path⟩
  else .error (.library path (path ++ ": cannot open shared object file: No such file or directory"))

/-- What a library exports under a name. -/
def symbol? (_ : NativeLibrary) (name : String) : Option Symbol :=
  if name = "environ" then some .variable
  else (LibraryFunction.all.find? (·.symbol == name)).map .function

/-- The first function that a library must export to serve as an object runtime. None of the
libraries exports it. -/
def runtimeEntry : String := "objc_getClass"

end NativeLibrary

end MessageBridge
