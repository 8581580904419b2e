import MessageBridge.Encoding.Translator
import MessageBridge.Proofs.Encoding.Cursor
import MessageBridge.Proofs.Encoding.Grammar

/-!
# Types read in place

The readers of type encodings once more, on a text that is kept as bytes: one position moves through
the text, each reader looks at bytes, moves the position and cuts out pieces, and an error names the
position where it is found. Every step is checked. Moving the position out of the text, cutting inside
a character, closing a bracket that is not open and going round a loop once more than there are bytes
are slips, and so is to nest more readers in one another than there are bytes.

A reader in place follows a reader of characters if it comes to the same from the place of what that
one reads. What follows is built step by step: the accesses to the text are the steps, and each of them
leads from a place to a place. Only the first byte of a character is ever looked at from its place, its
lead byte, and that is as good as the character to a reader who asks for characters of one byte.

## Main definitions

* `Cursor.Walk` — readers in place.
* `Cursor.parseType` — reads one type in place.
* `Cursor.translate`, `Cursor.split`, `Cursor.parseSignature` — translating in place.
* `Cursor.Follows` — a reader in place comes to what a reader of characters comes to.

## Main results

* `Cursor.Follows.bind` — readers that follow one after another.
* `Cursor.leadByte_eq_iff` — a character of one byte is a lead byte only of itself.
-/

namespace MessageBridge.Encoding.Cursor

/-! ## Readers in place -/

/-- Why a reader in place stops. -/
inductive Halt where
  /-- A check failed. -/
  | slip (s : Slip)
  /-- The text is refused. -/
  | error (e : Error)

/-- **Readers in place**: they move a position. -/
abbrev Walk (α : Type) : Type := StateT Nat (Except Halt) α

/-- An access to the text, which leaves the position where it is. -/
def checked {α : Type} (x : Except Slip α) : Walk α := fun i =>
  match x with
  | .ok a => .ok (a, i)
  | .error e => .error (.slip e)

section Walk

variable (s : String)

/-- Moves the position, which has to stay in the text. -/
def moveTo (i : Nat) : Walk Unit :=
  if i ≤ s.utf8ByteSize then set i else throw (.slip .outside)

/-- Moves on by one byte. -/
def advance : Walk Unit := do moveTo s ((← get) + 1)

/-- The byte at the position. -/
def peek : Walk (Option Char) := return byte? s (← get)

/-- The piece from `start` to the position. -/
def piece (start : Nat) : Walk String := do checked (slice s start (← get))

/-- A complaint about the position. -/
def complain {α : Type} (c : Complaint) : Walk α := do
  throw (.error (.malformedEncoding s s!"{c.text} at offset {← get}"))

/-- Moves on over the bytes that satisfy `p`. -/
def skipWhile (p : Char → Bool) : Walk Unit := do moveTo s (← checked (skip s p (← get)))

/-- Moves behind the bracketed group at the position. -/
def passGroup (opening closing : Char) : Walk Unit := do
  match ← checked (close s opening closing (← get)) with
  | some i => moveTo s i
  | none =>
    moveTo s s.utf8ByteSize
    complain s .unbalancedBrackets

/-- Refuses a type that cannot be passed, without moving. -/
def checkPrefix : Walk Unit := do
  let i ← checked (skip s isQualifier (← get))
  match byte? s i with
  | some c =>
    if isUnsupported c then
      throw (.error (.unsupportedType (← checked (slice s i s.utf8ByteSize))))
  | none => return ()

/-- Reads the text in the quotes at the position. -/
def parseQuoted : Walk String := do
  let i ← get
  match ← checked (find s (· == '"') (min (i + 1) s.utf8ByteSize)) with
  | some j =>
    let text ← checked (slice s (i + 1) j)
    moveTo s (j + 1)
    return text
  | none => complain s .unterminatedQuote

/-- Reads the name of a field. -/
def parseFieldName : Walk String := do
  match ← peek s with
  | some c => if c = '"' then parseQuoted s else complain s .unquotedField
  | none => complain s .unquotedField

/-- Reads what belongs to the sign of an object. -/
def parseObject (named : Bool) (start : Nat) : Walk Descriptor := do
  match ← peek s with
  | some c =>
    if c = '?' then
      advance s
      return .mk (← piece s start) (.object none)
    else if c = '"' && !named then
      let className ← parseQuoted s
      return .mk (← piece s start) (.object (some className))
    else return .mk (← piece s start) (.object none)
  | none => return .mk (← piece s start) (.object none)

/-- Moves on over pointer signs and counts them, up to 255. -/
def passLevels : Nat → Nat → Walk Nat
  | 0, _ => throw (.slip .endless)
  | n + 1, levels => do
    skipWhile s isQualifier
    match ← peek s with
    | some c =>
      if c = '^' then
        advance s
        passLevels n (min (levels + 1) 255)
      else return levels
    | none => return levels

/-- Moves behind the struct at the position, and answers its name. -/
def passStruct : Walk String := do
  let i ← get
  match ← checked (find s endsName (i + 1)) with
  | some j =>
    let name ← checked (slice s (i + 1) j)
    passGroup s '\x7b' '\x7d'
    return name
  | none => complain s .unterminatedStruct

/-- Moves behind what a pointer points at. If it is a struct, the answer is its name. -/
def passPointee (parse : Walk Descriptor) : Walk (Option String) := do
  match ← peek s with
  | none => complain s .missingPointee
  | some c =>
    if c = '\x7b' then return some (← passStruct s)
    else if c = '[' then
      passGroup s '[' ']'
      return none
    else if c = '(' then
      passGroup s '(' ')'
      return none
    else if c = 'b' then
      advance s
      skipWhile s isOffset
      return none
    else if c = 'D' then
      advance s
      return none
    else
      let _ ← parse
      return none

/-- Reads a pointer, behind its first sign. -/
def parsePointer (layout? : String → Option Layout) (parse : Walk Descriptor) (start : Nat) :
    Walk Descriptor := do
  let levels ← passLevels s (rounds s) 1
  let struct? ← passPointee s parse
  let layout := if levels = 1 then struct?.bind layout? else none
  return .mk (← piece s start) (.pointer levels layout)

/-- Reads the name of a field, if the fields have names. -/
def parseLabel (named : Bool) : Walk (Option String) :=
  if named then some <$> parseFieldName s else pure none

/-- Reads fields up to the closing brace. -/
def parseFields (parse : Walk Descriptor) (named : Bool) :
    Nat → Walk (List (Option String × Descriptor))
  | 0 => throw (.slip .endless)
  | n + 1 => do
    match ← peek s with
    | none => complain s .unterminatedStruct
    | some c =>
      if c = '\x7d' then
        advance s
        return []
      else
        let name ← parseLabel s named
        let d ← parse
        if d.isVoid then complain s .voidField
        let fields ← parseFields parse named n
        return (name, d) :: fields

/-- Reads a struct, behind its opening brace. -/
def parseStruct (layout? : String → Option Layout) (parse : Bool → Walk Descriptor) (start : Nat) :
    Walk Descriptor := do
  let i ← get
  skipWhile s (!endsName ·)
  let name ← piece s i
  match ← peek s with
  | none => complain s .unterminatedStruct
  | some c =>
    advance s
    if c = '\x7d' then
      match layout? name with
      | some layout => return .mk (← piece s start) (.aggregate layout)
      | none => throw (.error (.unknownAggregate name))
    else
      let named := (← peek s) == some '"'
      let fields ← parseFields s (parse named) named (rounds s)
      let encoding ← piece s start
      if fields.isEmpty then throw (.error (.unsupportedType encoding))
      let read := Layout.ofFields name fields
      return .mk encoding (.aggregate (if named then read else adoptNames layout? read))

/-- Reads what is behind a type code, which stands at `start`. -/
def parseCoded (layout? : String → Option Layout) (parse : Bool → Walk Descriptor) (named : Bool)
    (start : Nat) (code : Char) : Walk Descriptor := do
  match Primitive.ofCode? code with
  | some p => return .mk (← piece s start) (.scalar p)
  | none =>
    if code = '@' then parseObject s named start
    else if code = '#' then return .mk "#" .classRef
    else if code = ':' then return .selector
    else if code = '*' then return .mk "*" .cString
    else if code = '?' then return .mk "?" (.pointer 1 none)
    else if code = '^' then parsePointer s layout? (parse false) start
    else if code = '\x7b' then parseStruct s layout? parse start
    else if isUnsupported code then
      throw (.error (.unsupportedType (← checked (slice s start s.utf8ByteSize))))
    else
      moveTo s start
      complain s (.unknownCode code)

/-- **Reads one type in place**, at most `depth` types nested in one another. -/
def parseType (layout? : String → Option Layout) : Nat → Bool → Walk Descriptor
  | 0, _ => throw (.slip .endless)
  | depth + 1, named => do
    skipWhile s isQualifier
    let start ← get
    match ← peek s with
    | none => complain s .unexpectedEnd
    | some code =>
      advance s
      parseCoded s layout? (parseType layout? depth) named start code

/-- Reads one type at the top level. -/
def parseOne (layout? : String → Option Layout) : Walk Descriptor := do
  checkPrefix s
  parseType s layout? (rounds s) false

/-- Reads types one after another, each with the stack offset after it. -/
def parseAll (layout? : String → Option Layout) : Nat → Walk (List Descriptor)
  | 0 => throw (.slip .endless)
  | n + 1 => do
    if (← get) < s.utf8ByteSize then
      let d ← parseOne s layout?
      skipWhile s isOffset
      let ds ← parseAll layout? n
      return d :: ds
    else return []

end Walk

/-! ## Translating in place -/

section Translating

variable (t : Translator) (s : String)

/-- The descriptor of one type encoding. -/
def translate : Except Halt Descriptor :=
  StateT.run' (do
    let d ← parseOne s t.layout?
    if (← get) ≠ s.utf8ByteSize then complain s .trailingCharacters
    return d) 0

/-- The descriptors of a type string. -/
def split : Except Halt (List Descriptor) := StateT.run' (parseAll s t.layout? (rounds s)) 0

/-- The signature of a method type string. -/
def parseSignature : Except Halt Signature := do
  match ← split t s with
  | [] => throw (.error (.invalidSignature s))
  | ret :: args =>
    let sig : Signature := ⟨ret, args⟩
    if sig.isMethod then return sig else throw (.error (.invalidSignature s))

end Translating

/-! ## Following a reader of characters -/

section Follows

variable {α β γ : Type} {s : String} {c d : Char} {u v w : List Char}

/-- What a reader of characters comes to, told by position. -/
def outcome (s : String) : Except Refusal (α × List Char) → Except Halt (α × Nat)
  | .ok (a, rest) => .ok (a, place s rest)
  | .error refusal => .error (.error (refusal.toError s))

/-- **Follows**: from the place of `v` the reader in place comes to what the reader of characters comes
to, which leaves an end of `v`. -/
structure Follows (s : String) (v : List Char) (walk : Walk α)
    (x : Except Refusal (α × List Char)) : Prop where
  run : walk (place s v) = outcome s x
  suffix : ∀ a rest, x = .ok (a, rest) → rest <:+ v

/-! ### Steps -/

/-- **One after another**: the second reader starts where the first one stopped. -/
lemma Follows.bind {walk : Walk α} {x : Except Refusal (α × List Char)} {f : α → Walk β}
    {g : α × List Char → Except Refusal (β × List Char)} (h : Follows s v walk x)
    (hf : ∀ a rest, rest <:+ v → x = .ok (a, rest) → Follows s rest (f a) (g (a, rest))) :
    Follows s v (walk >>= f) (x >>= g) := by
  cases x with
  | error refusal =>
    refine ⟨?_, fun _ _ hok => by cases hok⟩
    change (walk (place s v) >>= fun r => f r.1 r.2) = _
    rw [h.run]
    rfl
  | ok r =>
    obtain ⟨a, rest⟩ := r
    have hsuffix := h.suffix a rest rfl
    have hnext := hf a rest hsuffix rfl
    refine ⟨?_, fun b rest' hok => (hnext.suffix b rest' hok).trans hsuffix⟩
    change (walk (place s v) >>= fun r => f r.1 r.2) = _
    rw [h.run]
    exact hnext.run

lemma follows_pure (a : α) : Follows s v (pure a) (.ok (a, v)) :=
  ⟨rfl, fun _ _ hok => by cases hok; exact List.suffix_rfl⟩

lemma follows_complain (c : Complaint) :
    Follows s v (complain s c : Walk α) (.error (.malformed c v)) :=
  ⟨rfl, fun _ _ hok => by cases hok⟩

lemma follows_throw {refusal : Refusal} {e : Error} (h : refusal.toError s = e) :
    Follows s v (throw (.error e) : Walk α) (.error refusal) :=
  ⟨by rw [← h]; rfl, fun _ _ hok => by cases hok⟩

/-- Both readers branch on the same condition. -/
lemma Follows.ite {p : Prop} [Decidable p] {walk walk' : Walk α}
    {x x' : Except Refusal (α × List Char)} (h : p → Follows s v walk x)
    (h' : ¬ p → Follows s v walk' x') :
    Follows s v (if p then walk else walk') (if p then x else x') := by
  by_cases hp : p
  · rw [if_pos hp, if_pos hp]
    exact h hp
  · rw [if_neg hp, if_neg hp]
    exact h' hp

/-- A complaint about a place may be made from anywhere. -/
lemma run_complainAt (c : Complaint) (w : List Char) (i : Nat) :
    (do moveTo s (place s w); complain s c : Walk α) i =
      outcome s (.error (.malformed c w)) := by
  rw [moveTo, if_pos (place_le w)]
  rfl

section Bind

variable {f : α → Walk β} {x : Except Refusal (β × List Char)}

lemma Follows.get {f : Nat → Walk β} (h : Follows s v (f (place s v)) x) :
    Follows s v (get >>= f) x :=
  ⟨h.run, h.suffix⟩

lemma Follows.checked {y : Except Slip α} {a : α} (hy : y = .ok a) (h : Follows s v (f a) x) :
    Follows s v (checked y >>= f) x := by
  subst hy
  exact ⟨h.run, h.suffix⟩

lemma Follows.peek {f : Option Char → Walk β} (h : Follows s v (f (byte? s (place s v))) x) :
    Follows s v (peek s >>= f) x :=
  ⟨h.run, h.suffix⟩

lemma Follows.peek_nil {f : Option Char → Walk β} (h : Follows s [] (f none) x) :
    Follows s [] (Cursor.peek s >>= f) x := by
  apply Follows.peek
  rw [byte?_place_nil]
  exact h

lemma Follows.peek_cons {f : Option Char → Walk β} (hv : c :: v <:+ s.toList)
    (h : Follows s (c :: v) (f (some (readType.leadByte c))) x) :
    Follows s (c :: v) (Cursor.peek s >>= f) x := by
  apply Follows.peek
  rw [byte?_place_cons hv]
  exact h

lemma Follows.piece {f : String → Walk β} (hv : v <:+ w) (hw : w <:+ s.toList)
    (h : Follows s v (f (textBetween w v)) x) : Follows s v (piece s (place s w) >>= f) x := by
  rw [Cursor.piece, bind_assoc]
  exact .get (.checked (slice_place hv hw) h)

lemma Follows.moveTo {f : Unit → Walk β} (hw : w <:+ v) (h : Follows s w (f ()) x) :
    Follows s v (moveTo s (place s w) >>= f) x := by
  refine ⟨?_, fun b rest hok => (h.suffix b rest hok).trans hw⟩
  rw [Cursor.moveTo, if_pos (place_le w)]
  exact h.run

lemma Follows.advance {f : Unit → Walk β} (hv : c :: v <:+ s.toList) (hc : c.utf8Size = 1)
    (h : Follows s v (f ()) x) : Follows s (c :: v) (advance s >>= f) x := by
  rw [Cursor.advance, bind_assoc]
  refine .get ?_
  rw [place_succ hv hc]
  exact .moveTo (List.suffix_cons c v) h

lemma Follows.skipWhile {f : Unit → Walk β} {p : Char → Bool} (hp : Coarse p)
    (hv : v <:+ s.toList) (h : Follows s (v.dropWhile p) (f ()) x) :
    Follows s v (skipWhile s p >>= f) x := by
  rw [Cursor.skipWhile, bind_assoc]
  refine .get ?_
  rw [bind_assoc]
  exact .checked (skip_place hp hv) (.moveTo (List.dropWhile_suffix p) h)

/-- A group is passed as it is skipped. -/
lemma Follows.passGroup {f : Unit → Walk β} {g : List Char → Except Refusal (β × List Char)}
    {opening closing : Char} (ho : opening.utf8Size = 1) (hc : closing.utf8Size = 1)
    (hquote : opening ≠ '"') (hv : opening :: v <:+ s.toList)
    (h : ∀ rest, rest <:+ opening :: v → Follows s rest (f ()) (g rest)) :
    Follows s (opening :: v) (passGroup s opening closing >>= f)
      (skipGroup opening closing (opening :: v) >>= g) := by
  rw [Cursor.passGroup, bind_assoc]
  refine .get ?_
  rw [bind_assoc]
  refine .checked (close_place ho hc hquote hv) ?_
  unfold skipGroup
  cases hclose : closeGroup opening closing 0 false (opening :: v) with
  | none =>
    simp only [Option.map_none, ← place_nil s, bind_assoc]
    exact .moveTo List.nil_suffix (follows_complain _)
  | some rest =>
    obtain ⟨g', hg', -⟩ := exists_of_closeGroup hclose
    exact .moveTo ⟨g', hg'.symm⟩ (h rest ⟨g', hg'.symm⟩)

end Bind

/-! ### Lead bytes -/

lemma leadByte_of_one (h : c.utf8Size = 1) : readType.leadByte c = c := if_pos h

/-- The lead byte of any other character is beyond ASCII. -/
lemma utf8Size_leadByte_ne_one (h : c.utf8Size ≠ 1) : (readType.leadByte c).utf8Size ≠ 1 := by
  obtain ⟨b, hb, hlead⟩ := Option.map_eq_some_iff.mp (head?_utf8EncodeChar c)
  rcases utf8EncodeChar_cases c with ⟨hone, -⟩ | ⟨-, hbytes⟩
  · exact absurd hone h
  · exact hlead ▸ hbytes b (List.mem_of_mem_head? hb)

/-- A character of one byte is a lead byte only of itself. -/
lemma leadByte_eq_iff (hd : d.utf8Size = 1) : readType.leadByte c = d ↔ c = d := by
  by_cases hc : c.utf8Size = 1
  · rw [leadByte_of_one hc]
  · exact iff_of_false (ne_of_utf8Size (utf8Size_leadByte_ne_one hc) hd) (ne_of_utf8Size hc hd)

lemma byte?_place_beq (hv : v <:+ s.toList) (hd : d.utf8Size = 1) :
    (byte? s (place s v) == some d) = (v.head? == some d) := by
  cases v with
  | nil => rw [byte?_place_nil, List.head?_nil]
  | cons c v =>
    rw [byte?_place_cons hv, List.head?_cons, Bool.eq_iff_iff, beq_iff_eq, beq_iff_eq,
      Option.some.injEq, Option.some.injEq, leadByte_eq_iff hd]

lemma isUnsupported_of_wide (hc : c.utf8Size ≠ 1) : isUnsupported c = false := by
  rw [isUnsupported, List.contains_eq_mem, decide_eq_false_iff_not]
  intro hmem
  simp only [List.mem_cons, List.not_mem_nil, or_false] at hmem
  rcases hmem with rfl | rfl | rfl | rfl <;> exact hc rfl

lemma isUnsupported_leadByte (c : Char) :
    isUnsupported (readType.leadByte c) = isUnsupported c := by
  by_cases hc : c.utf8Size = 1
  · rw [leadByte_of_one hc]
  · rw [isUnsupported_of_wide hc, isUnsupported_of_wide (utf8Size_leadByte_ne_one hc)]

end Follows

end MessageBridge.Encoding.Cursor
