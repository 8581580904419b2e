import MessageBridge.Encoding.Translator
import Mathlib.Data.List.Basic
import Mathlib.Data.List.TakeWhile
import Mathlib.Tactic.Common

/-!
# The grammar of type encodings

The readers of type encodings look at what follows a type before they know where it ends: a question
mark after the sign of an object makes it a block, and digits after a bit-field belong to its width.
This module says without the readers which texts denote which descriptors, and what a text can still
take in. The readers accept just these texts, and stop only before what the text cannot take in.

## Main definitions

* `Encoding.Tail` — what the end of a text can still take in.
* `Encoding.Group` — a bracketed group.
* `Encoding.Spells` — a text without leading qualifiers denotes a descriptor.

## Main results

* `Encoding.Spells.exists_cons` — no type starts with what the text before it would take in, except
  for a question mark.
-/

namespace MessageBridge.Encoding

/-! ## Tails -/

/-- **Tails**: what the end of a text of a type can still take in. -/
inductive Tail where
  /-- Nothing. -/
  | closed
  /-- The sign of a block or, where quotes may follow, a class name. -/
  | object (quotes : Bool)
  /-- More of the width of a bit-field. -/
  | width
deriving DecidableEq

/-- Whether the character is taken in if it comes next. -/
def Tail.takes : Tail → Char → Bool
  | closed, _ => false
  | object quotes, c => c == '?' || (quotes && c == '"')
  | width, c => isOffset c

/-- **Stops**: the first character of what follows is not taken in. -/
def Tail.Stops (t : Tail) (rest : List Char) : Prop := ∀ c ∈ rest.head?, t.takes c = false

@[simp] lemma Tail.stops_closed (rest : List Char) : Tail.closed.Stops rest := fun _ _ => rfl

lemma Tail.Stops.congr {t : Tail} {r s : List Char} (h : r.head? = s.head?) (hr : t.Stops r) :
    t.Stops s := by
  rwa [Stops, ← h]

/-! ## Qualifiers and pointer signs -/

/-- Only qualifiers. -/
def Qualifiers (q : List Char) : Prop := ∀ c ∈ q, isQualifier c = true

lemma Qualifiers.nil : Qualifiers [] := by simp [Qualifiers]

lemma isOffset_of_isQualifier {c : Char} (h : isQualifier c = true) : isOffset c = false := by
  simp only [isQualifier, List.contains_eq_mem, List.mem_cons, List.not_mem_nil, or_false,
    decide_eq_true_eq] at h
  rcases h with rfl | rfl | rfl | rfl | rfl | rfl | rfl <;> decide

lemma skipQualifiers_append {q s : List Char} (hq : Qualifiers q) :
    skipQualifiers (q ++ s) = skipQualifiers s :=
  List.dropWhile_append_of_pos hq

lemma skipQualifiers_cons {c : Char} {s : List Char} (hc : isQualifier c = false) :
    skipQualifiers (c :: s) = c :: s := by
  simp [skipQualifiers, hc]

/-- Every text starts with qualifiers, if with none, and goes on with none. -/
lemma exists_qualifiers (s : List Char) :
    ∃ q, Qualifiers q ∧ s = q ++ skipQualifiers s ∧
      ∀ c ∈ (skipQualifiers s).head?, isQualifier c = false := by
  refine ⟨s.takeWhile isQualifier, fun c hc => List.mem_takeWhile_imp hc,
    List.takeWhile_append_dropWhile.symm, fun c hc => ?_⟩
  have h := List.head?_dropWhile_not isQualifier s
  rw [skipQualifiers] at hc
  rw [Option.mem_def.mp hc] at h
  exact h

/-- Whether the character may stand between a pointer sign and what is pointed at. -/
def isSign (c : Char) : Bool := isQualifier c || c == '^'

/-- The number of pointer levels of a sign with the given signs after it. -/
def levelsOf (signs : List Char) : Nat := min (1 + signs.count '^') 255

/-- The signs are skipped and counted. -/
lemma skipLevels_append {signs s : List Char} {n : Nat} (hsigns : ∀ c ∈ signs, isSign c = true)
    (hs : ∀ c ∈ s.head?, isSign c = false) (hn : n ≤ 255) :
    skipLevels n (signs ++ s) = (min (n + signs.count '^') 255, s) := by
  induction signs generalizing n with
  | nil =>
    cases s with
    | nil => simp [skipLevels, hn]
    | cons c s =>
      have hc := hs c rfl
      simp only [isSign, Bool.or_eq_false_iff, beq_eq_false_iff_ne] at hc
      simp [skipLevels, hc, hn]
  | cons c signs ih =>
    have hrest : ∀ c ∈ signs, isSign c = true := fun x hx => hsigns x (List.mem_cons_of_mem _ hx)
    by_cases hq : isQualifier c = true
    · have hne : c ≠ '^' := by rintro rfl; cases hq
      simp [skipLevels, hq, ih hrest hn, hne]
    · obtain rfl : c = '^' := by simpa [isSign, hq] using hsigns c List.mem_cons_self
      have hq' : isQualifier '^' = false := by decide
      simp only [List.cons_append, skipLevels, hq', if_true, Bool.false_eq_true, if_false,
        ih hrest (Nat.min_le_right _ _), List.count_cons_self, Prod.mk.injEq, and_true]
      omega

lemma exists_signs (s : List Char) :
    ∃ signs v, s = signs ++ v ∧ (∀ c ∈ signs, isSign c = true) ∧
      ∀ c ∈ v.head?, isSign c = false := by
  refine ⟨s.takeWhile isSign, s.dropWhile isSign, List.takeWhile_append_dropWhile.symm,
    fun c hc => List.mem_takeWhile_imp hc, fun c hc => ?_⟩
  have h := List.head?_dropWhile_not isSign s
  rw [Option.mem_def.mp hc] at h
  exact h

/-! ## Groups -/

section Groups

variable {opening closing : Char} {depth : Nat} {quoted : Bool} {g s rest : List Char}

/-- **Groups**: a text whose last character closes the bracket that its first one opens. -/
def Group (opening closing : Char) (g : List Char) : Prop :=
  closeGroup opening closing 0 false g = some []

/-- How many brackets are open after a character, and whether it is inside quotes; none where the
character closes the group. -/
def groupStep (opening closing : Char) (depth : Nat) (quoted : Bool) (c : Char) :
    Option (Nat × Bool) :=
  if c = '"' then some (depth, !quoted)
  else if quoted then some (depth, quoted)
  else if c = opening then some (depth + 1, quoted)
  else if c = closing then if depth ≤ 1 then none else some (depth - 1, quoted)
  else some (depth, quoted)

lemma closeGroup_cons (c : Char) :
    closeGroup opening closing depth quoted (c :: s) =
      match groupStep opening closing depth quoted c with
      | none => some s
      | some (depth, quoted) => closeGroup opening closing depth quoted s := by
  unfold groupStep
  rw [closeGroup]
  split_ifs <;> rfl

lemma eq_of_groupStep {c : Char} (h : groupStep opening closing depth quoted c = none) :
    c = closing := by
  unfold groupStep at h
  split_ifs at h with _ _ _ hc
  exact hc

/-- A group is closed by itself, whatever follows it. -/
lemma closeGroup_append (h : closeGroup opening closing depth quoted g = some []) :
    closeGroup opening closing depth quoted (g ++ rest) = some rest := by
  induction g generalizing depth quoted with
  | nil => cases h
  | cons c g ih =>
    rw [closeGroup_cons] at h
    rw [List.cons_append, closeGroup_cons]
    cases hstep : groupStep opening closing depth quoted c with
    | none =>
      rw [hstep] at h
      cases h
      rfl
    | some next =>
      rw [hstep] at h
      exact ih h

lemma exists_of_closeGroup (h : closeGroup opening closing depth quoted s = some rest) :
    ∃ g, s = g ++ rest ∧ closeGroup opening closing depth quoted g = some [] := by
  induction s generalizing depth quoted with
  | nil => cases h
  | cons c s ih =>
    rw [closeGroup_cons] at h
    cases hstep : groupStep opening closing depth quoted c with
    | none =>
      rw [hstep] at h
      cases h
      exact ⟨[c], rfl, by rw [closeGroup_cons, hstep]⟩
    | some next =>
      rw [hstep] at h
      obtain ⟨g, rfl, hg⟩ := ih h
      exact ⟨c :: g, rfl, by rw [closeGroup_cons, hstep]; exact hg⟩

/-- A group ends with its closing bracket. -/
lemma getLast?_of_closeGroup (h : closeGroup opening closing depth quoted g = some []) :
    g.getLast? = some closing := by
  induction g generalizing depth quoted with
  | nil => cases h
  | cons c g ih =>
    rw [closeGroup_cons] at h
    cases hstep : groupStep opening closing depth quoted c with
    | none =>
      rw [hstep] at h
      cases h
      rw [eq_of_groupStep hstep]
      rfl
    | some next =>
      rw [hstep] at h
      rw [List.getLast?_cons, ih h]
      rfl

lemma skipGroup_append (h : Group opening closing g) :
    skipGroup opening closing (g ++ rest) = .ok rest := by
  rw [skipGroup, closeGroup_append h]

lemma exists_of_skipGroup (h : skipGroup opening closing s = .ok rest) :
    ∃ g, s = g ++ rest ∧ Group opening closing g := by
  unfold skipGroup at h
  split at h
  · next hg =>
    cases h
    exact exists_of_closeGroup hg
  · cases h

end Groups

/-! ## The grammar -/

/-- The layout of a struct whose fields were read: without names in the text, a registered layout that
fits gives the names. -/
def structLayout (layout? : String → Option Layout) (named : Bool) (name : String)
    (fields : List (Option String × Descriptor)) : Layout :=
  if named then .ofFields name fields else adoptNames layout? (.ofFields name fields)

/-- **Labels**: what stands before the type of a field. -/
inductive Label : Bool → List Char → Option String → Prop
  | unnamed : Label false [] none
  | named {name : List Char} (h : '"' ∉ name) :
      Label true ('"' :: (name ++ ['"'])) (some (String.ofList name))

mutual

/-- **Spells**: the text, which starts with no qualifier, denotes a type of the shape, and its end can
take in what the tail says. The flag tells a field of a struct with field names. -/
inductive Spells (layout? : String → Option Layout) :
    Bool → List Char → Shape → Tail → Prop
  | scalar {named : Bool} (p : Primitive) : Spells layout? named [p.code] (.scalar p) .closed
  | object {named : Bool} : Spells layout? named ['@'] (.object none) (.object !named)
  | block {named : Bool} : Spells layout? named ['@', '?'] (.object none) .closed
  | className {name : List Char} (h : '"' ∉ name) :
      Spells layout? false ('@' :: '"' :: (name ++ ['"'])) (.object (some (String.ofList name)))
        .closed
  | classRef {named : Bool} : Spells layout? named ['#'] .classRef .closed
  | selector {named : Bool} : Spells layout? named [':'] .selector .closed
  | cString {named : Bool} : Spells layout? named ['*'] .cString .closed
  | unknown {named : Bool} : Spells layout? named ['?'] (.pointer 1 none) .closed
  | pointer {named : Bool} {signs u : List Char} {struct? : Option String} {tail : Tail}
      (hsigns : ∀ c ∈ signs, isSign c = true) (h : SpellsPointee layout? u struct? tail) :
      Spells layout? named ('^' :: (signs ++ u))
        (.pointer (levelsOf signs) (if levelsOf signs = 1 then struct?.bind layout? else none)) tail
  | known {named : Bool} {name : List Char} {layout : Layout}
      (hname : ∀ c ∈ name, endsName c = false)
      (h : layout? (String.ofList name) = some layout) :
      Spells layout? named ('\x7b' :: (name ++ ['\x7d'])) (.aggregate layout) .closed
  | struct {named inner : Bool} {name body : List Char} {fields : List (Option String × Descriptor)}
      (hname : ∀ c ∈ name, endsName c = false)
      (hinner : inner = ((body ++ ['\x7d']).head? == some '"'))
      (h : SpellsFields layout? inner body fields) (hne : fields ≠ []) :
      Spells layout? named ('\x7b' :: (name ++ '=' :: (body ++ ['\x7d'])))
        (.aggregate (structLayout layout? inner (String.ofList name) fields)) .closed

/-- The text stands behind a pointer. If it is a struct, it is one of the name. -/
inductive SpellsPointee (layout? : String → Option Layout) :
    List Char → Option String → Tail → Prop
  | type {c : Char} {u : List Char} {shape : Shape} {tail : Tail}
      (h : Spells layout? false (c :: u) shape tail) (hpointer : c ≠ '^') (hstruct : c ≠ '\x7b') :
      SpellsPointee layout? (c :: u) none tail
  | struct {u : List Char} (h : Group '\x7b' '\x7d' ('\x7b' :: u)) :
      SpellsPointee layout? ('\x7b' :: u) (some (String.ofList (u.takeWhile (!endsName ·)))) .closed
  | array {u : List Char} (h : Group '[' ']' ('[' :: u)) :
      SpellsPointee layout? ('[' :: u) none .closed
  | union {u : List Char} (h : Group '(' ')' ('(' :: u)) :
      SpellsPointee layout? ('(' :: u) none .closed
  | bitField {width : List Char} (h : ∀ c ∈ width, isOffset c = true) :
      SpellsPointee layout? ('b' :: width) none .width
  | longDouble : SpellsPointee layout? ['D'] none .closed

/-- The text lists fields of a struct, each of which stops before the next one or before the closing
brace. -/
inductive SpellsFields (layout? : String → Option Layout) :
    Bool → List Char → List (Option String × Descriptor) → Prop
  | nil {named : Bool} : SpellsFields layout? named [] []
  | cons {named : Bool} {label q u v : List Char} {name : Option String} {shape : Shape}
      {tail : Tail} {fields : List (Option String × Descriptor)} (hlabel : Label named label name)
      (hq : Qualifiers q) (h : Spells layout? named u shape tail) (hvoid : shape ≠ .scalar .void)
      (hstop : tail.Stops (v ++ ['\x7d'])) (hrest : SpellsFields layout? named v fields) :
      SpellsFields layout? named (label ++ (q ++ (u ++ v)))
        ((name, .mk (String.ofList u) shape) :: fields)

end

/-- **The first character of a type**: no qualifier, no sign of a type that cannot be passed, and
nothing that could belong to what is before it, except that it may be a question mark. -/
structure Starts (c : Char) : Prop where
  isQualifier : isQualifier c = false
  isUnsupported : isUnsupported c = false
  isOffset : isOffset c = false
  ne_quote : c ≠ '"'
  ne_brace : c ≠ '\x7d'

/-- A type starts with such a character. -/
lemma Spells.exists_cons {layout? : String → Option Layout} {named : Bool} {u : List Char}
    {shape : Shape} {tail : Tail} (h : Spells layout? named u shape tail) :
    ∃ c v, u = c :: v ∧ Starts c := by
  cases h with
  | scalar p => exact ⟨_, _, rfl, by cases p <;> constructor <;> decide⟩
  | _ => exact ⟨_, _, rfl, by constructor <;> decide⟩

/-- What stands behind a pointer is not empty. -/
lemma SpellsPointee.ne_nil {layout? : String → Option Layout} {u : List Char}
    {struct? : Option String} {tail : Tail} (h : SpellsPointee layout? u struct? tail) : u ≠ [] := by
  cases h <;> simp

/-- A group that closes with another bracket does not end with the sign of an object. -/
lemma Group.getLast?_ne {opening closing : Char} {g : List Char} (h : Group opening closing g)
    (hne : closing ≠ '@') : g.getLast? ≠ some '@' := by
  rw [getLast?_of_closeGroup h]
  simpa using hne

mutual

/-- **The sign of an object at the end**: just the texts that end with it can take in a question
mark. -/
lemma Spells.getLast?_eq_iff {layout? : String → Option Layout} {named : Bool} {u : List Char}
    {shape : Shape} {tail : Tail} :
    Spells layout? named u shape tail → (u.getLast? = some '@' ↔ tail.takes '?' = true)
  | .scalar p => by cases p <;> decide
  | .object => by simp [Tail.takes]
  | .block | .classRef | .selector | .cString | .unknown => by decide
  | .className _ => by simp [List.getLast?_cons, Tail.takes]
  | .pointer _ h => by
    rw [← List.cons_append, List.getLast?_append_of_ne_nil _ h.ne_nil]
    exact h.getLast?_eq_iff
  | .known _ _ => by simp [List.getLast?_cons, Tail.takes]
  | .struct _ _ _ _ => by simp [List.getLast?_cons, Tail.takes]

lemma SpellsPointee.getLast?_eq_iff {layout? : String → Option Layout} {u : List Char}
    {struct? : Option String} {tail : Tail} :
    SpellsPointee layout? u struct? tail → (u.getLast? = some '@' ↔ tail.takes '?' = true)
  | .type h _ _ => h.getLast?_eq_iff
  | .struct h => by simpa [Tail.takes] using h.getLast?_ne (by decide)
  | .array h => by simpa [Tail.takes] using h.getLast?_ne (by decide)
  | .union h => by simpa [Tail.takes] using h.getLast?_ne (by decide)
  | .bitField h => by
    refine iff_of_false (fun hlast => ?_) (by decide)
    rcases List.mem_cons.mp (List.mem_of_getLast? hlast) with hb | hmem
    · cases hb
    · exact absurd (h _ hmem) (by decide)
  | .longDouble => by decide

end

/-- What is next to a type is taken in by its text only if it is a question mark. -/
lemma Tail.takes_iff {tail : Tail} {c : Char} (hquote : c ≠ '"') (hoffset : isOffset c = false) :
    tail.takes c = true ↔ tail.takes '?' = true ∧ c = '?' := by
  have hmark : isOffset '?' = false := rfl
  cases tail <;> simp [Tail.takes, hquote, hoffset, hmark]

/-- **Neighbours**: before what starts with neither a quote nor an offset, a text stops just if a
question mark does not come after the sign of an object. -/
lemma Spells.stops_iff {layout? : String → Option Layout} {named : Bool} {u rest : List Char}
    {shape : Shape} {tail : Tail} (hu : Spells layout? named u shape tail)
    (hrest : ∀ c ∈ rest.head?, c ≠ '"' ∧ isOffset c = false) :
    tail.Stops rest ↔ ¬ (u.getLast? = some '@' ∧ rest.head? = some '?') := by
  rw [hu.getLast?_eq_iff]
  cases rest with
  | nil => simp [Tail.Stops]
  | cons c rest =>
    obtain ⟨hquote, hoffset⟩ := hrest c rfl
    simp only [Tail.Stops, List.head?_cons, Option.mem_some_iff, forall_eq', Option.some.injEq]
    rw [← Tail.takes_iff hquote hoffset, Bool.not_eq_true]

end MessageBridge.Encoding
