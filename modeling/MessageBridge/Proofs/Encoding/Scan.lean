import MessageBridge.Proofs.Encoding.TypeTree

/-!
# Scanning brackets

Closing a group counts the brackets of one kind and skips quotes. A scanner that keeps all brackets
apart on a stack, and knows where a name is, sees more: a text that it passes leaves the brackets of
every kind as they are, and a group in such a text closes just where the scanner is back at the level
at which the group opened.

## Main definitions

* `Encoding.markOf` — what a character means to brackets.
* `Encoding.scanStep`, `Encoding.scan` — the scanner, from a stack of open brackets to the next one.
* `Encoding.Level` — texts after which the scanner is where it was.

## Main results

* `Encoding.scan_frame` — the scanner does not look below the brackets that it opens.
* `Encoding.Level.neutral` — a level text is neutral for brackets of every kind.
* `Encoding.level_of_group` — a group that the scanner gets through is level.
-/

namespace MessageBridge.Encoding

/-! ## Marks -/

/-- **Marks**: what a character means to brackets. -/
inductive Mark where
  | quote
  | opening (b : Bracket)
  | closing (b : Bracket)
  | equals
  | other
deriving DecidableEq

/-- The mark of a character. -/
def markOf (c : Char) : Mark :=
  if c = '"' then .quote
  else if c = '=' then .equals
  else if c = '\x7b' then .opening .curly
  else if c = '[' then .opening .square
  else if c = '(' then .opening .round
  else if c = '\x7d' then .closing .curly
  else if c = ']' then .closing .square
  else if c = ')' then .closing .round
  else .other

/-- The text has no quotes, brackets and equals signs, as is so for the name of a struct. -/
def IsName (name : List Char) : Prop := ∀ c ∈ name, markOf c = .other

instance (name : List Char) : Decidable (IsName name) :=
  List.decidableBAll (fun c => markOf c = .other) name

section Marks

variable {c : Char} {b : Bracket}

@[simp] lemma markOf_opening (b : Bracket) : markOf b.opening = .opening b := by cases b <;> rfl

@[simp] lemma markOf_closing (b : Bracket) : markOf b.closing = .closing b := by cases b <;> rfl

lemma eq_quote_of_markOf (h : markOf c = .quote) : c = '"' := by
  unfold markOf at h
  split_ifs at h with hc
  exact hc

lemma eq_equals_of_markOf (h : markOf c = .equals) : c = '=' := by
  unfold markOf at h
  split_ifs at h with _ hc
  exact hc

lemma eq_opening_of_markOf (h : markOf c = .opening b) : c = b.opening := by
  unfold markOf at h
  split_ifs at h <;> cases h <;> assumption

lemma eq_closing_of_markOf (h : markOf c = .closing b) : c = b.closing := by
  unfold markOf at h
  split_ifs at h <;> cases h <;> assumption

lemma ne_of_markOf {d : Char} (h : markOf c ≠ markOf d) : c ≠ d := fun heq => h (by rw [heq])

end Marks

/-- Counting the brackets of one kind depends on the marks only. -/
lemma groupStep_eq (b : Bracket) (depth : Nat) (c : Char) :
    groupStep b.opening b.closing depth false c =
      match markOf c with
      | .quote => some (depth, true)
      | .opening b' => some (if b' = b then depth + 1 else depth, false)
      | .closing b' =>
        if b' = b then if depth ≤ 1 then none else some (depth - 1, false) else some (depth, false)
      | .equals | .other => some (depth, false) := by
  have hopening (h : markOf c ≠ .opening b) : c ≠ b.opening := ne_of_markOf (by simpa using h)
  have hclosing (h : markOf c ≠ .closing b) : c ≠ b.closing := ne_of_markOf (by simpa using h)
  have hquote (h : markOf c ≠ .quote) : c ≠ '"' := ne_of_markOf h
  unfold groupStep
  cases hmark : markOf c with
  | quote =>
    obtain rfl := eq_quote_of_markOf hmark
    rfl
  | opening b' =>
    rw [if_neg (hquote (by simp [hmark])), if_neg Bool.false_ne_true]
    by_cases hb : b' = b
    · subst hb
      rw [if_pos (eq_opening_of_markOf hmark)]
      simp only [if_true]
    · rw [if_neg (hopening (by simp [hmark, hb])), if_neg (hclosing (by simp [hmark]))]
      simp only [if_neg hb]
  | closing b' =>
    rw [if_neg (hquote (by simp [hmark])), if_neg Bool.false_ne_true,
      if_neg (hopening (by simp [hmark]))]
    by_cases hb : b' = b
    · subst hb
      rw [if_pos (eq_closing_of_markOf hmark)]
      simp only [if_true]
    · rw [if_neg (hclosing (by simp [hmark, hb]))]
      simp only [if_neg hb]
  | equals | other =>
    rw [if_neg (hquote (by simp [hmark])), if_neg Bool.false_ne_true,
      if_neg (hopening (by simp [hmark])), if_neg (hclosing (by simp [hmark]))]

/-! ## The scanner -/

/-- **Modes** of the scanner: between types, inside quotes, or in the name of a struct or union. -/
inductive Mode where
  | plain
  | quoted
  | name
deriving DecidableEq

/-- Whether the scanner is inside quotes. -/
def Mode.isQuoted : Mode → Bool
  | quoted => true
  | plain | name => false

/-- The mode after an opening bracket: an array has no name. -/
def Bracket.mode : Bracket → Mode
  | square => .plain
  | curly | round => .name

lemma Bracket.isQuoted_mode (b : Bracket) : b.mode.isQuoted = false := by cases b <;> rfl

lemma Bracket.mode_eq_name {b : Bracket} (hb : b ≠ .square) : b.mode = .name := by
  cases b with
  | square => exact absurd rfl hb
  | curly | round => rfl

/-- A closing bracket closes the bracket that was opened last, which must be of its kind. -/
def popBracket (b : Bracket) : List Bracket → Option (List Bracket × Mode)
  | b' :: st => if b' = b then some (st, .plain) else none
  | [] => none

/-- One character further, from the open brackets and the mode. A name has only characters of its
own, up to an equals sign or a closing bracket. -/
def scanStep : List Bracket × Mode → Char → Option (List Bracket × Mode)
  | (st, .quoted), c => some (st, if c = '"' then .plain else .quoted)
  | (st, .name), c =>
    match markOf c with
    | .other => some (st, .name)
    | .equals => some (st, .plain)
    | .closing b => popBracket b st
    | .quote | .opening _ => none
  | (st, .plain), c =>
    match markOf c with
    | .quote => some (st, .quoted)
    | .opening b => some (b :: st, b.mode)
    | .closing b => popBracket b st
    | .equals | .other => some (st, .plain)

/-- **The scanner**, over a whole text. -/
def scan (x : List Bracket × Mode) (s : List Char) : Option (List Bracket × Mode) :=
  s.foldlM scanStep x

section Scan

variable {x y : List Bracket × Mode} {st w w' : List Bracket} {m m' : Mode} {b : Bracket} {c : Char}
  {s s' rest name : List Char}

lemma scan_cons : scan x (c :: s) = (scanStep x c).bind fun y => scan y s := rfl

lemma scan_append : scan x (s ++ s') = (scan x s).bind fun y => scan y s' := List.foldlM_append

/-- **How a text is scanned**: first its first part, then the other one. -/
lemma scan_append_eq_some : scan x (s ++ s') = some y ↔ ∃ z, scan x s = some z ∧ scan z s' = some y := by
  rw [scan_append, Option.bind_eq_some_iff]

lemma popBracket_eq_some (h : popBracket b st = some x) : ∃ st', st = b :: st' ∧ x = (st', .plain) := by
  cases st with
  | nil => cases h
  | cons b' st =>
    simp only [popBracket] at h
    split at h
    · next hb =>
      cases h
      exact ⟨st, by rw [hb], rfl⟩
    · cases h

@[simp] lemma popBracket_self (b : Bracket) (st : List Bracket) :
    popBracket b (b :: st) = some (st, .plain) := if_pos rfl

/-- A closing bracket is one outside of quotes. -/
lemma scanStep_closing (hm : m ≠ .quoted) (hc : markOf c = .closing b) (st : List Bracket) :
    scanStep (st, m) c = popBracket b st := by
  cases m with
  | quoted => exact absurd rfl hm
  | plain | name => simp only [scanStep, hc]

/-- **What is below**: a step does not look at the brackets below, unless it closes one of them. -/
lemma scanStep_append (h : scanStep (w ++ st, m) c = some (w', m')) :
    (∃ v, w' = v ++ st ∧ ∀ st', scanStep (w ++ st', m) c = some (v ++ st', m')) ∨
      w = [] ∧ m ≠ .quoted ∧ m' = .plain ∧ ∃ b, markOf c = .closing b ∧ st = b :: w' := by
  have hpop {b : Bracket} (hm : m ≠ .quoted) (hc : markOf c = .closing b) :
      (∃ v, w' = v ++ st ∧ ∀ st', scanStep (w ++ st', m) c = some (v ++ st', m')) ∨
        w = [] ∧ m ≠ .quoted ∧ m' = .plain ∧ ∃ b, markOf c = .closing b ∧ st = b :: w' := by
    rw [scanStep_closing hm hc] at h
    obtain ⟨v, hv, heq⟩ := popBracket_eq_some h
    cases heq
    cases w with
    | nil => exact .inr ⟨rfl, hm, rfl, b, hc, hv⟩
    | cons b' w =>
      obtain ⟨rfl, rfl⟩ := List.cons.inj hv
      exact .inl ⟨w, rfl, fun st' => by rw [scanStep_closing hm hc, List.cons_append, popBracket_self]⟩
  cases m with
  | quoted =>
    cases h
    exact .inl ⟨w, rfl, fun _ => rfl⟩
  | name =>
    cases hc : markOf c with
    | closing b => simpa only [hc] using hpop (by decide) hc
    | other | equals =>
      simp only [scanStep, hc, Option.some.injEq, Prod.mk.injEq] at h ⊢
      obtain ⟨rfl, rfl⟩ := h
      exact .inl ⟨w, rfl, fun _ => ⟨rfl, rfl⟩⟩
    | quote | opening b => simp [scanStep, hc] at h
  | plain =>
    cases hc : markOf c with
    | closing b => simpa only [hc] using hpop (by decide) hc
    | other | equals | quote =>
      simp only [scanStep, hc, Option.some.injEq, Prod.mk.injEq] at h ⊢
      obtain ⟨rfl, rfl⟩ := h
      exact .inl ⟨w, rfl, fun _ => ⟨rfl, rfl⟩⟩
    | opening b =>
      simp only [scanStep, hc, Option.some.injEq, Prod.mk.injEq] at h ⊢
      obtain ⟨rfl, rfl⟩ := h
      exact .inl ⟨b :: w, rfl, fun _ => ⟨rfl, rfl⟩⟩

/-- Brackets below those that are there change nothing. -/
lemma scanStep_frame (h : scanStep (w, m) c = some (w', m')) (st : List Bracket) :
    scanStep (w ++ st, m) c = some (w' ++ st, m') := by
  rw [← List.append_nil w] at h
  rcases scanStep_append h with ⟨v, rfl, hv⟩ | ⟨-, -, -, b, -, hb⟩
  · rw [hv, List.append_nil]
  · cases hb

/-- **The frame of a scan**: the scanner does not look below the brackets that it opens. -/
lemma scan_frame (h : scan (w, m) s = some (w', m')) (st : List Bracket) :
    scan (w ++ st, m) s = some (w' ++ st, m') := by
  induction s generalizing w m with
  | nil =>
    cases h
    rfl
  | cons c s ih =>
    obtain ⟨⟨v, k⟩, hstep, h⟩ := Option.bind_eq_some_iff.mp h
    rw [scan_cons, scanStep_frame hstep st]
    exact ih h

/-! ## Counting along a scan -/

/-- A step of the scanner moves the count of every kind of bracket with it. -/
lemma groupStep_of_scanStep (h : scanStep (w, m) c = some (w', m')) {depth : Nat} (hdepth : 0 < depth)
    (b : Bracket) :
    groupStep b.opening b.closing (depth + w.count b) m.isQuoted c =
      some (depth + w'.count b, m'.isQuoted) := by
  have hpop {b' : Bracket} (hc : markOf c = .closing b') (h : popBracket b' w = some (w', m')) :
      groupStep b.opening b.closing (depth + w.count b) false c =
        some (depth + w'.count b, m'.isQuoted) := by
    obtain ⟨v, rfl, heq⟩ := popBracket_eq_some h
    cases heq
    rw [groupStep_eq, hc]
    by_cases hb : b' = b
    · subst hb
      simp only [if_true, List.count_cons_self]
      rw [if_neg (by omega)]
      rfl
    · simp only [if_neg hb, List.count_cons_of_ne hb]
      rfl
  cases m with
  | quoted =>
    cases h
    by_cases hc : c = '"' <;> simp [groupStep, Mode.isQuoted, hc]
  | name =>
    cases hc : markOf c with
    | closing b' =>
      simp only [scanStep, hc] at h
      exact hpop hc h
    | other | equals =>
      simp only [scanStep, hc, Option.some.injEq, Prod.mk.injEq] at h
      obtain ⟨rfl, rfl⟩ := h
      simp only [Mode.isQuoted, groupStep_eq, hc]
    | quote | opening b => simp [scanStep, hc] at h
  | plain =>
    cases hc : markOf c with
    | closing b' =>
      simp only [scanStep, hc] at h
      exact hpop hc h
    | other | equals | quote =>
      simp only [scanStep, hc, Option.some.injEq, Prod.mk.injEq] at h
      obtain ⟨rfl, rfl⟩ := h
      simp only [Mode.isQuoted, groupStep_eq, hc]
    | opening b' =>
      simp only [scanStep, hc, Option.some.injEq, Prod.mk.injEq] at h
      obtain ⟨rfl, rfl⟩ := h
      rw [b'.isQuoted_mode]
      simp only [Mode.isQuoted, groupStep_eq, hc]
      by_cases hb : b' = b
      · subst hb
        simp only [if_true, List.count_cons_self, Nat.add_assoc]
      · simp only [if_neg hb, List.count_cons_of_ne hb]

/-- Closing a group around a text that is scanned goes on behind it. -/
lemma closeGroup_of_scan (h : scan (w, m) s = some (w', m')) {depth : Nat} (hdepth : 0 < depth)
    (b : Bracket) (rest : List Char) :
    closeGroup b.opening b.closing (depth + w.count b) m.isQuoted (s ++ rest) =
      closeGroup b.opening b.closing (depth + w'.count b) m'.isQuoted rest := by
  induction s generalizing w m with
  | nil =>
    cases h
    rfl
  | cons c s ih =>
    obtain ⟨⟨v, k⟩, hstep, h⟩ := Option.bind_eq_some_iff.mp h
    rw [List.cons_append, closeGroup_cons, groupStep_of_scanStep hstep hdepth b]
    exact ih h

/-- Where a group is closed in a text that is scanned, the scanner closes its bracket too. -/
lemma scan_of_closeGroup
    (hgroup : closeGroup b.opening b.closing (1 + w.count b) m.isQuoted s = some [])
    (h : scan (w ++ b :: st, m) s = some x) : scan (w ++ [b], m) s = some ([], .plain) := by
  induction s generalizing w m with
  | nil => cases hgroup
  | cons c s ih =>
    obtain ⟨⟨v, k⟩, hstep, h⟩ := Option.bind_eq_some_iff.mp h
    rw [closeGroup_cons] at hgroup
    rcases scanStep_append hstep with ⟨u, rfl, hu⟩ | ⟨rfl, hm, rfl, b', hc, heq⟩
    · have hw : scanStep (w, m) c = some (u, k) := by simpa using hu []
      rw [groupStep_of_scanStep hw Nat.one_pos b] at hgroup
      rw [scan_cons, hu]
      exact ih hgroup h
    · obtain ⟨rfl, rfl⟩ := List.cons.inj heq
      have hq : m.isQuoted = false := by cases m <;> first | rfl | exact absurd rfl hm
      rw [hq, groupStep_eq, hc] at hgroup
      obtain rfl : s = [] := by simpa using hgroup
      rw [scan_cons, scanStep_closing hm hc, List.nil_append, popBracket_self]
      rfl

end Scan

/-! ## Level texts -/

/-- **Level**: after the text the scanner is where it was before it. -/
def Level (s : List Char) : Prop := scan ([], .plain) s = some ([], .plain)

instance (s : List Char) : Decidable (Level s) := inferInstanceAs (Decidable (_ = _))

section Level

variable {x : List Bracket × Mode} {st : List Bracket} {b : Bracket} {c : Char}
  {s s' name : List Char}

lemma Level.scan_eq (h : Level s) (st : List Bracket) : scan (st, .plain) s = some (st, .plain) := by
  simpa using scan_frame h st

lemma Level.nil : Level [] := rfl

lemma Level.append (h : Level s) (h' : Level s') : Level (s ++ s') := by
  rw [Level, scan_append, h.scan_eq]
  exact h'

/-- Behind a level text the scanner goes on as if there had been none. -/
lemma Level.of_append (h : Level s) (hx : scan (st, .plain) (s ++ s') = some x) :
    scan (st, .plain) s' = some x := by
  rwa [scan_append, h.scan_eq] at hx

lemma Level.singleton (h : markOf c = .other) : Level [c] := by
  rw [Level, scan_cons, scanStep, h]
  rfl

lemma Level.of_isName (h : IsName s) : Level s := by
  induction s with
  | nil => exact .nil
  | cons c s ih =>
    obtain ⟨hc, hs⟩ := List.forall_mem_cons.mp h
    exact (Level.singleton hc).append (ih hs)

/-- In a name the scanner goes on to its end. -/
lemma scan_name (h : IsName name) : scan (st, .name) name = some (st, .name) := by
  induction name with
  | nil => rfl
  | cons c name ih =>
    obtain ⟨hc, hname⟩ := List.forall_mem_cons.mp h
    rw [scan_cons, scanStep, hc]
    exact ih hname

lemma scan_quoted (h : '"' ∉ name) : scan (st, .quoted) name = some (st, .quoted) := by
  induction name with
  | nil => rfl
  | cons c name ih =>
    obtain ⟨hc, hname⟩ : c ≠ '"' ∧ '"' ∉ name := by simpa [eq_comm] using h
    rw [scan_cons, scanStep, if_neg hc]
    exact ih hname

/-- A text in quotes is level. -/
lemma Level.quoted (h : '"' ∉ name) : Level ('"' :: (name ++ ['"'])) := by
  rw [Level, scan_cons]
  change scan ([], .quoted) (name ++ ['"']) = _
  rw [scan_append, scan_quoted h]
  rfl

/-- Brackets around what leads from their mode to a plain one are level. -/
lemma level_of_scan_mode {m : Mode} (hm : m ≠ .quoted) (h : scan ([b], b.mode) s = some ([b], m)) :
    Level (b.opening :: (s ++ [b.closing])) := by
  rw [Level, scan_cons, scanStep, markOf_opening]
  change scan ([b], b.mode) (s ++ [b.closing]) = _
  rw [scan_append, h, Option.bind_some, scan_cons, scanStep_closing hm (markOf_closing b),
    popBracket_self]
  rfl

/-- A struct or union of which only the name is given. -/
lemma Level.named (hb : b ≠ .square) (h : IsName name) :
    Level (b.opening :: (name ++ [b.closing])) := by
  have hscan : scan ([b], b.mode) name = some ([b], .name) := by
    rw [Bracket.mode_eq_name hb]
    exact scan_name h
  exact level_of_scan_mode (by decide) hscan

/-- A struct or union with its fields. -/
lemma Level.compound (hb : b ≠ .square) (h : IsName name) (hs : Level s) :
    Level (b.opening :: (name ++ '=' :: (s ++ [b.closing]))) := by
  have hscan : scan ([b], b.mode) (name ++ '=' :: s) = some ([b], .plain) := by
    rw [Bracket.mode_eq_name hb, scan_append, scan_name h]
    exact hs.scan_eq [b]
  simpa using level_of_scan_mode (by decide) hscan

/-- An array. -/
lemma Level.array (hs : Level s) : Level ('[' :: (s ++ [']'])) :=
  level_of_scan_mode (b := .square) (by decide) (hs.scan_eq [.square])

/-- **Level texts are neutral**, for brackets of every kind. -/
lemma Level.neutral (h : Level s) (b : Bracket) : Neutral b s :=
  fun _ rest hdepth => closeGroup_of_scan h hdepth b rest

lemma IsName.neutral (h : IsName name) (b : Bracket) : Neutral b name :=
  (Level.of_isName h).neutral b

/-- **Groups are level** where the scanner gets through them. -/
lemma level_of_group (hgroup : Group b.opening b.closing (b.opening :: s))
    (h : scan (st, .plain) (b.opening :: s) = some x) : Level (b.opening :: s) := by
  rw [scan_cons, scanStep, markOf_opening] at h
  rw [Group, closeGroup_cons, groupStep_eq, markOf_opening] at hgroup
  simp only [if_true, Nat.zero_add] at hgroup
  rw [Level, scan_cons, scanStep, markOf_opening]
  rw [← b.isQuoted_mode] at hgroup
  exact scan_of_closeGroup (w := []) (by simpa using hgroup) h

/-- **The name of a struct** that the scanner gets through is a name, and then the scanner is
where the name ends. -/
lemma isName_of_scan (hname : ∀ c ∈ name, endsName c = false)
    (h : scan (.curly :: st, .name) (name ++ s) = some x) :
    IsName name ∧ scan (.curly :: st, .name) s = some x := by
  induction name with
  | nil => exact ⟨nofun, h⟩
  | cons c name ih =>
    obtain ⟨hc, hname⟩ := List.forall_mem_cons.mp hname
    have hends : c ≠ '=' ∧ c ≠ '\x7d' := by simpa [endsName] using hc
    rw [List.cons_append, scan_cons, scanStep] at h
    cases hmark : markOf c with
    | quote | opening b => simp [hmark] at h
    | equals => exact absurd (eq_equals_of_markOf hmark) hends.1
    | closing b =>
      rw [hmark] at h
      obtain ⟨y, hpop, -⟩ := Option.bind_eq_some_iff.mp h
      obtain ⟨_, heq, -⟩ := popBracket_eq_some hpop
      cases heq
      exact absurd (eq_closing_of_markOf hmark) hends.2
    | other =>
      rw [hmark] at h
      obtain ⟨hrest, h⟩ := ih hname h
      exact ⟨List.forall_mem_cons.mpr ⟨hmark, hrest⟩, h⟩

end Level

end MessageBridge.Encoding
