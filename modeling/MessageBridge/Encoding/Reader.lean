import MessageBridge.Encoding.Descriptor
import MessageBridge.Error

/-!
# Reading type encodings

A type encoding is a compact text for one native type:

* a letter for a scalar, `*` for a C string, `#` for a class, `:` for a selector, `?` for a pointer
  to something unknown;
* `@` for an object, also `@?` and `@"Name"`;
* `^` and a type for a pointer to it, where the pointee may also be an array, a union, a bit-field
  or a long double, none of which can be passed by value;
* `{Name}` for a struct known by name and `{Name=…}` for one with its fields, each of them with a
  quoted name before it or none.

Qualifier letters may stand before any type and mean nothing.

A reader takes the characters that are left and returns what it read together with those that remain,
so the text it consumed is the difference. Struct names are looked up in a table of layouts.

## Main definitions

* `Encoding.Complaint`, `Encoding.Refusal` : why an encoding is refused, and where.
* `Encoding.readType` : reads one type.
* `Encoding.refuseUnsupported` : the check that comes before a type at the top level.
-/

namespace MessageBridge.Encoding

/-- What is wrong with a malformed encoding. -/
inductive Complaint where
  | trailingCharacters
  | unexpectedEnd
  | unknownCode (c : Char)
  | missingPointee
  | unterminatedStruct
  | voidField
  | unquotedField
  | unterminatedQuote
  | unbalancedBrackets
deriving DecidableEq, Repr

/-- The complaint in words. -/
def Complaint.text : Complaint → String
  | trailingCharacters => "trailing characters after type"
  | unexpectedEnd => "unexpected end of encoding"
  | unknownCode c => s!"unknown type code '{c}'"
  | missingPointee => "pointer without a pointee"
  | unterminatedStruct => "unterminated struct"
  | voidField => "void struct field"
  | unquotedField => "expected a quoted field name"
  | unterminatedQuote => "unterminated quote"
  | unbalancedBrackets => "unbalanced brackets"

/-- Why an encoding is refused. A complaint is about the place where `rest` starts. -/
inductive Refusal where
  | malformed (complaint : Complaint) (rest : List Char)
  | unsupported (encoding : String)
  | unknownStruct (name : String)
deriving DecidableEq, Repr

/-- The number of bytes that the characters take in UTF-8. -/
def byteCount (s : List Char) : Nat := s.foldr (fun c n => c.utf8Size + n) 0

/-- The error for a refusal of the encoding `source`. Places are counted in bytes. -/
def Refusal.toError (source : String) : Refusal → Error
  | malformed complaint rest =>
    .malformedEncoding source
      s!"{complaint.text} at offset {byteCount source.toList - byteCount rest}"
  | unsupported encoding => .unsupportedType encoding
  | unknownStruct name => .unknownAggregate name

/-- A reader: what it read and the characters that remain, or a refusal. -/
abbrev Reader (α : Type) := List Char → Except Refusal (α × List Char)

/-- Whether the character is a qualifier: `const`, `in`, `inout`, `out`, `bycopy`, `byref` or
`oneway`. -/
def isQualifier (c : Char) : Bool := ['r', 'n', 'N', 'o', 'O', 'R', 'V'].contains c

/-- The characters after any leading qualifiers. -/
def skipQualifiers (s : List Char) : List Char := s.dropWhile isQualifier

/-- Whether the character belongs to a stack offset. -/
def isOffset (c : Char) : Bool := c.isDigit || c == '-'

/-- The characters after a leading stack offset. -/
def skipOffset (s : List Char) : List Char := s.dropWhile isOffset

/-- The text between `start` and a later rest of it. -/
def textBetween (start stop : List Char) : String :=
  String.ofList (start.take (start.length - stop.length))

/-- The characters after the bracket that closes the group, `depth` brackets being open. Brackets
inside quotes do not count. -/
def closeGroup (opening closing : Char) (depth : Nat) (quoted : Bool) :
    List Char → Option (List Char)
  | [] => none
  | c :: rest =>
    if c = '"' then closeGroup opening closing depth (!quoted) rest
    else if quoted then closeGroup opening closing depth quoted rest
    else if c = opening then closeGroup opening closing (depth + 1) quoted rest
    else if c = closing then
      if depth ≤ 1 then some rest else closeGroup opening closing (depth - 1) quoted rest
    else closeGroup opening closing depth quoted rest

/-- Skips the bracketed group at the front. -/
def skipGroup (opening closing : Char) (s : List Char) : Except Refusal (List Char) :=
  match closeGroup opening closing 0 false s with
  | some rest => .ok rest
  | none => .error (.malformed .unbalancedBrackets [])

/-- Reads the text in quotes at the front. A complaint is about the opening quote. -/
def readQuoted : Reader String
  | '"' :: rest =>
    match rest.dropWhile (· != '"') with
    | _ :: after => .ok (String.ofList (rest.takeWhile (· != '"')), after)
    | [] => .error (.malformed .unterminatedQuote ('"' :: rest))
  | s => .error (.malformed .unquotedField s)

/-- Whether the character ends the name of a struct. -/
def endsName (c : Char) : Bool := c == '=' || c == '\x7d'

/-- Whether values of the type that the character starts cannot be passed: arrays, unions,
bit-fields and long doubles. -/
def isUnsupported (c : Char) : Bool := ['[', '(', 'b', 'D'].contains c

/-- Refuses a type that cannot be passed, before anything else about it is looked at. -/
def refuseUnsupported (s : List Char) : Except Refusal Unit :=
  match skipQualifiers s with
  | c :: rest =>
    if isUnsupported c then .error (.unsupported (String.ofList (c :: rest))) else .ok ()
  | [] => .ok ()

/-- Counts the pointer signs at the front, qualifiers between them skipped, up to 255. -/
def skipLevels (levels : Nat) : List Char → Nat × List Char
  | [] => (levels, [])
  | c :: rest =>
    if isQualifier c then skipLevels levels rest
    else if c = '^' then skipLevels (min (levels + 1) 255) rest
    else (levels, c :: rest)

/-- Skips the struct behind a pointer and returns its name. -/
def skipStruct (s : List Char) : Except Refusal (String × List Char) :=
  let body := s.drop 1
  if body.any endsName then do
    let rest ← skipGroup '\x7b' '\x7d' s
    return (String.ofList (body.takeWhile (!endsName ·)), rest)
  else .error (.malformed .unterminatedStruct s)

/-- Skips the pointee at the front and returns the name of the struct that it is, if it is one. -/
def skipPointee (readType : Reader Descriptor) :
    List Char → Except Refusal (Option String × List Char)
  | [] => .error (.malformed .missingPointee [])
  | c :: rest =>
    if c = '\x7b' then do
      let (name, rest) ← skipStruct (c :: rest)
      return (some name, rest)
    else if c = '[' then return (none, ← skipGroup '[' ']' (c :: rest))
    else if c = '(' then return (none, ← skipGroup '(' ')' (c :: rest))
    else if c = 'b' then return (none, skipOffset rest)
    else if c = 'D' then return (none, rest)
    else do
      let (_, rest) ← readType (c :: rest)
      return (none, rest)

/-- Reads the fields of a struct up to the closing brace, at most `count` of them. -/
def readFields (readType : Reader Descriptor) (named : Bool) :
    Nat → Reader (List (Option String × Descriptor))
  | 0, s => .error (.malformed .unterminatedStruct s)
  | count + 1, s =>
    match s with
    | [] => .error (.malformed .unterminatedStruct [])
    | c :: rest =>
      if c = '\x7d' then .ok ([], rest)
      else do
        let (name, s) ←
          if named then (fun r => (some r.1, r.2)) <$> readQuoted s else pure (none, s)
        let (d, s) ← readType s
        if d.isVoid then throw (.malformed .voidField s)
        let (fields, s) ← readFields readType named count s
        return ((name, d) :: fields, s)

/-- Gives the struct that was read its registered layout if that one names the fields of the same
shape: as many fields and the same size. -/
def adoptNames (layout? : String → Option Layout) (read : Layout) : Layout :=
  match layout? read.name with
  | some known =>
    if known.size = read.size && known.fields.length = read.fields.length then known else read
  | none => read

/-- Reads the struct whose opening brace is the first character of `start`, from the characters after
the brace. -/
def readStruct (layout? : String → Option Layout) (readType : Bool → Reader Descriptor)
    (start : List Char) : Reader Descriptor := fun s =>
  let name := String.ofList (s.takeWhile (!endsName ·))
  match s.dropWhile (!endsName ·) with
  | [] => .error (.malformed .unterminatedStruct [])
  | c :: body =>
    if c = '\x7d' then
      match layout? name with
      | some layout => .ok (.mk (textBetween start body) (.aggregate layout), body)
      | none => .error (.unknownStruct name)
    else do
      let named := body.head? == some '"'
      let (fields, rest) ← readFields (readType named) named (body.length + 1) body
      let encoding := textBetween start rest
      if fields.isEmpty then throw (.unsupported encoding)
      let read := Layout.ofFields name fields
      let layout := if named then read else adoptNames layout? read
      return (.mk encoding (.aggregate layout), rest)

/-- Reads what may follow the sign of an object: the sign of a block, or a class name in quotes.
Between named fields a quote starts the next name. -/
def readObject (named : Bool) (start : List Char) : Reader Descriptor := fun s =>
  match s with
  | c :: rest =>
    if c = '?' then .ok (.mk (textBetween start rest) (.object none), rest)
    else if c = '"' && !named then do
      let (className, rest) ← readQuoted (c :: rest)
      return (.mk (textBetween start rest) (.object (some className)), rest)
    else .ok (.object, s)
  | [] => .ok (.object, [])

/-- Reads one type. `named` says whether it is a field of a struct with field names, and `depth` is
more than the number of structs that may be nested. -/
def readType (layout? : String → Option Layout) (depth : Nat) (named : Bool) : Reader Descriptor :=
  match depth with
  | 0 => fun s => .error (.malformed .unexpectedEnd s)
  | depth + 1 => fun s =>
    match skipQualifiers s with
    | [] => .error (.malformed .unexpectedEnd [])
    | c :: rest =>
      let start := c :: rest
      match Primitive.ofCode? c with
      | some p => .ok (.scalar p, rest)
      | none =>
        if c = '@' then readObject named start rest
        else if c = '#' then .ok (.mk "#" .classRef, rest)
        else if c = ':' then .ok (.selector, rest)
        else if c = '*' then .ok (.mk "*" .cString, rest)
        else if c = '?' then .ok (.mk "?" (.pointer 1 none), rest)
        else if c = '^' then do
          let (levels, pointee) := skipLevels 1 rest
          let (struct?, rest) ← skipPointee (readType layout? depth false) pointee
          let layout := if levels = 1 then struct?.bind layout? else none
          return (.mk (textBetween start rest) (.pointer levels layout), rest)
        else if c = '\x7b' then readStruct layout? (readType layout? depth) start rest
        else if isUnsupported c then .error (.unsupported (String.ofList start))
        else .error (.malformed (.unknownCode (leadByte c)) start)
where
  /-- The first byte of the character, as the character of that number. -/
  leadByte (c : Char) : Char :=
    if c.utf8Size = 1 then c
    else if c.utf8Size = 2 then Char.ofNat (0xc0 + c.toNat / 0x40)
    else if c.utf8Size = 3 then Char.ofNat (0xe0 + c.toNat / 0x1000)
    else Char.ofNat (0xf0 + c.toNat / 0x40000)

end MessageBridge.Encoding
