import MessageBridge.Proofs.Encoding.Tokens

/-!
# What a type string is cut into

Any text can be the type string of a method, and the object space cuts it without understanding it. A
token is known by how it starts: signs belong to what is behind them, a bracket to its group, the letter
of a bit-field to its width, the sign of an object to the sign of a block or to a class name, and any
other character is a token by itself if it takes one byte. Between tokens stand offsets.

A text is laid out in tokens in at most one way, and it is cut into these. It is not cut at all where it
ends in a token, or where a character of several bytes stands for a type, which would be torn apart.

## Main definitions

* `Token.Spans` — a text is one token, in front of what follows.
* `Token.Laid` — a text is laid out in tokens, up to a rest.
* `Token.Spread` — tokens with nothing but offsets between and after them.
* `Token.Straddles` — a character of several bytes stands for a type.

## Main results

* `Token.skipType_eq_ok_iff`, `Token.skipType_eq_insideCharacter_iff` — where a token ends.
* `Token.cut_eq_ok_iff` — what a type string is cut into.
* `Token.cut_eq_insideCharacter_iff` — when it is torn apart.
-/

namespace MessageBridge.Token

open Encoding

/-- Every text starts with an offset, if with an empty one, and goes on with none. -/
lemma exists_offset (s : List Char) :
    ∃ gap, s = gap ++ skipOffset s ∧ (∀ c ∈ gap, isOffset c = true) ∧
      Tail.width.Stops (skipOffset s) := by
  refine ⟨s.takeWhile isOffset, List.takeWhile_append_dropWhile.symm,
    fun c hc => List.mem_takeWhile_imp hc, fun c hc => ?_⟩
  have hhead := List.head?_dropWhile_not isOffset s
  rw [skipOffset] at hc
  rw [Option.mem_def.mp hc] at hhead
  exact hhead

/-! ## One token -/

/-- Whether a token that starts with the character goes on behind it, or may do so. -/
def isOpen (c : Char) : Bool := isSign c || ['\x7b', '(', '[', 'b', '@'].contains c

/-- **Spans**: the text is one token, in front of what follows. -/
inductive Spans : List Char → List Char → Prop
  | sign {c : Char} {u rest : List Char} (hc : isSign c = true) (h : Spans u rest) :
      Spans (c :: u) rest
  | group {b : Bracket} {u rest : List Char} (h : Group b.opening b.closing (b.opening :: u)) :
      Spans (b.opening :: u) rest
  | bitField {width rest : List Char} (h : ∀ c ∈ width, isOffset c = true)
      (hstop : Tail.width.Stops rest) : Spans ('b' :: width) rest
  | block {rest : List Char} : Spans ['@', '?'] rest
  | className {name rest : List Char} (h : '"' ∉ name) :
      Spans ('@' :: '"' :: (name ++ ['"'])) rest
  | object {rest : List Char} (hstop : (Tail.object true).Stops rest) : Spans ['@'] rest
  | code {c : Char} {rest : List Char} (hc : isOpen c = false) (hone : c.utf8Size = 1) :
      Spans [c] rest

/-- **Torn**: behind its signs, the text starts with a character of several bytes. -/
def Torn (s : List Char) : Prop :=
  ∃ signs c rest, s = signs ++ c :: rest ∧ (∀ d ∈ signs, isSign d = true) ∧ c.utf8Size ≠ 1

section Spans

variable {c : Char} {s u gap rest : List Char}

/-- A token is not empty. -/
lemma Spans.ne_nil (h : Spans u rest) : u ≠ [] := by
  cases h <;> exact List.cons_ne_nil _ _

lemma skipType_opening (b : Bracket) (s : List Char) :
    skipType (b.opening :: s) =
      orTruncated (closeGroup b.opening b.closing 0 false (b.opening :: s)) := by
  cases b <;> rfl

/-- Any other character is a token of one byte. -/
lemma skipType_code_eq (hc : isOpen c = false) (s : List Char) :
    skipType (c :: s) = if c.utf8Size = 1 then .ok s else .error .insideCharacter := by
  simp only [isOpen, Bool.or_eq_false_iff, List.contains_eq_mem, decide_eq_false_iff_not,
    List.mem_cons, List.not_mem_nil, or_false, not_or] at hc
  obtain ⟨hsign, hcurly, hround, hsquare, hbits, hobject⟩ := hc
  have hsign : (isQualifier c || c == '^') = false := hsign
  simp only [skipType, hsign, Bool.false_eq_true, if_false, hcurly, hround, hsquare, hbits, hobject]

/-- Longer tokens start with characters of one byte. -/
lemma utf8Size_of_isOpen (h : isOpen c = true) : c.utf8Size = 1 := by
  simp only [isOpen, isSign, isQualifier, Bool.or_eq_true, List.contains_eq_mem, decide_eq_true_eq,
    beq_iff_eq, List.mem_cons, List.not_mem_nil, or_false] at h
  rcases h with (hqualifier | rfl) | hopen
  · rcases hqualifier with rfl | rfl | rfl | rfl | rfl | rfl | rfl <;> rfl
  · rfl
  · rcases hopen with rfl | rfl | rfl | rfl | rfl <;> rfl

/-- A token is skipped. -/
lemma Spans.skipType_append (h : Spans u rest) : skipType (u ++ rest) = .ok rest := by
  induction h with
  | sign hc _ ih => rw [List.cons_append, skipType_cons hc, ih]
  | group h => exact skipType_group h _
  | bitField h hstop => exact congrArg Except.ok (skipOffset_append h hstop)
  | block => rfl
  | className h => exact skipType_className h _
  | @object rest hstop =>
    cases rest with
    | nil => rfl
    | cons c rest =>
      have htakes := hstop c rfl
      simp only [Tail.takes, Bool.true_and, Bool.or_eq_false_iff, beq_eq_false_iff_ne] at htakes
      exact skipType_object htakes.1 htakes.2 rest
  | @code c rest hc hone => rw [List.singleton_append, skipType_code_eq hc, if_pos hone]

lemma Torn.skipType_eq (h : Torn s) : skipType s = .error .insideCharacter := by
  obtain ⟨signs, c, rest, rfl, hsigns, hc⟩ := h
  have hplain : isOpen c = false := Bool.eq_false_iff.mpr (mt utf8Size_of_isOpen hc)
  rw [skipType_signs hsigns, skipType_code_eq hplain, if_neg hc]

/-- What a text starts with that starts with the sign of an object. -/
lemma skipType_object_cases (s : List Char) :
    (∃ u rest, '@' :: s = u ++ rest ∧ Spans u rest) ∨ skipType ('@' :: s) = .error .truncated := by
  rw [skipType_at]
  split
  · next rest => exact .inl ⟨['@', '?'], rest, rfl, .block⟩
  · next rest =>
    have htake : rest = rest.takeWhile (· != '"') ++ rest.dropWhile (· != '"') :=
      List.takeWhile_append_dropWhile.symm
    have hhead := List.head?_dropWhile_not (· != '"') rest
    split
    · next c after hdrop =>
      rw [hdrop] at htake hhead
      obtain rfl : c = '"' := by simpa using hhead
      have hname : '"' ∉ rest.takeWhile (· != '"') := fun hmem => by
        simpa using List.mem_takeWhile_imp hmem
      refine .inl ⟨_, after, ?_, .className hname⟩
      conv_lhs => rw [htake]
      simp
    · exact .inr rfl
  · next hmark hquote =>
    refine .inl ⟨['@'], s, rfl, .object fun c hc => ?_⟩
    cases s with
    | nil => cases hc
    | cons d s =>
      cases hc
      have hne : c ≠ '?' := fun heq => hmark s (by rw [heq])
      have hne' : c ≠ '"' := fun heq => hquote s (by rw [heq])
      simp [Tail.takes, hne, hne']

/-- **What a text starts with**: a token, the beginning of one that does not end, or a character of
several bytes for a type. -/
lemma skipType_cases (s : List Char) :
    (∃ u rest, s = u ++ rest ∧ Spans u rest) ∨ skipType s = .error .truncated ∨ Torn s := by
  induction s with
  | nil => exact .inr (.inl rfl)
  | cons c s ih =>
    by_cases hsign : isSign c = true
    · rw [skipType_cons hsign]
      rcases ih with ⟨u, rest, rfl, h⟩ | h | ⟨signs, d, rest, rfl, hsigns, hd⟩
      · exact .inl ⟨c :: u, rest, rfl, .sign hsign h⟩
      · exact .inr (.inl h)
      · exact .inr (.inr ⟨c :: signs, d, rest, rfl, List.forall_mem_cons.mpr ⟨hsign, hsigns⟩, hd⟩)
    by_cases hgroup : ∃ b : Bracket, c = b.opening
    · obtain ⟨b, rfl⟩ := hgroup
      rw [skipType_opening]
      cases hclose : closeGroup b.opening b.closing 0 false (b.opening :: s) with
      | none => exact .inr (.inl rfl)
      | some rest =>
        have hskip : skipGroup b.opening b.closing (b.opening :: s) = .ok rest := by
          rw [skipGroup, hclose]
        obtain ⟨u, rfl, hu⟩ := exists_of_skipGroup_cons hskip
        exact .inl ⟨b.opening :: u, rest, rfl, .group hu⟩
    by_cases hbits : c = 'b'
    · subst hbits
      obtain ⟨width, hs, hwidth, hstop⟩ := exists_offset s
      exact .inl ⟨'b' :: width, skipOffset s, by rw [List.cons_append, ← hs], .bitField hwidth hstop⟩
    by_cases hobject : c = '@'
    · subst hobject
      exact (skipType_object_cases s).imp_right .inl
    · have hplain : isOpen c = false := by
        have hcurly : c ≠ '\x7b' := fun h => hgroup ⟨.curly, h⟩
        have hround : c ≠ '(' := fun h => hgroup ⟨.round, h⟩
        have hsquare : c ≠ '[' := fun h => hgroup ⟨.square, h⟩
        simp [isOpen, hsign, hcurly, hround, hsquare, hbits, hobject]
      by_cases hone : c.utf8Size = 1
      · exact .inl ⟨[c], s, rfl, .code hplain hone⟩
      · exact .inr (.inr ⟨[], c, s, rfl, List.forall_mem_nil _, hone⟩)

/-- **The end of a token**: what is skipped is one token in front of the rest. -/
theorem skipType_eq_ok_iff : skipType s = .ok rest ↔ ∃ u, s = u ++ rest ∧ Spans u rest := by
  constructor
  · intro h
    rcases skipType_cases s with ⟨u, rest', rfl, hu⟩ | htruncated | htorn
    · rw [hu.skipType_append] at h
      cases h
      exact ⟨u, rfl, hu⟩
    · rw [htruncated] at h
      cases h
    · rw [htorn.skipType_eq] at h
      cases h
  · rintro ⟨u, rfl, hu⟩
    exact hu.skipType_append

/-- A type is torn apart just if a character of several bytes stands for it. -/
theorem skipType_eq_insideCharacter_iff : skipType s = .error .insideCharacter ↔ Torn s := by
  constructor
  · intro h
    rcases skipType_cases s with ⟨u, rest, rfl, hu⟩ | htruncated | htorn
    · rw [hu.skipType_append] at h
      cases h
    · rw [htruncated] at h
      cases h
    · exact htorn
  · exact Torn.skipType_eq

end Spans

/-! ## All tokens -/

/-- **Laid**: the text is laid out in the tokens up to the rest, with an offset after each token or with
none. -/
inductive Laid : List Char → List String → List Char → Prop
  | start {rest : List Char} : Laid rest [] rest
  | token {u gap s rest : List Char} {tokens : List String} (h : Spans u (gap ++ s))
      (hgap : ∀ c ∈ gap, isOffset c = true) (hstop : Tail.width.Stops s)
      (hrest : Laid s tokens rest) : Laid (u ++ (gap ++ s)) (String.ofList u :: tokens) rest

/-- **Spread**: the tokens stand in the text in their order, none of them is empty, and between them
and after them there are only digits and minus signs. -/
inductive Spread : List String → List Char → Prop
  | nil : Spread [] []
  | cons {u gap s : List Char} {tokens : List String} (hne : u ≠ [])
      (hgap : ∀ c ∈ gap, c.isDigit = true ∨ c = '-') (hrest : Spread tokens s) :
      Spread (String.ofList u :: tokens) (u ++ (gap ++ s))

/-- **Straddles**: somewhere a token of the type string would end inside a character, as a character of
several bytes stands for its type. -/
def Straddles (types : String) : Prop :=
  ∃ tokens rest, Laid types.toList tokens rest ∧ Torn rest

section Laid

variable {s rest : List Char} {tokens : List String} {types : String} {count : Nat}

lemma Laid.spread (h : Laid s tokens rest) (hrest : rest = []) : Spread tokens s := by
  induction h with
  | start =>
    subst hrest
    exact .nil
  | token h hgap _ _ ih =>
    refine .cons h.ne_nil (fun c hc => ?_) (ih hrest)
    simpa [isOffset] using hgap c hc

/-- A text with one token more is cut with one step more. -/
lemma cutAll_token {u gap : List Char} (h : Spans u (gap ++ s)) (hgap : ∀ c ∈ gap, isOffset c = true)
    (hstop : Tail.width.Stops s) :
    cutAll (count + 1) (u ++ (gap ++ s)) =
      (cutAll count s).map fun tokens => String.ofList u :: tokens := by
  obtain ⟨c, u, rfl⟩ := List.exists_cons_of_ne_nil h.ne_nil
  rw [List.cons_append, cutAll, ← List.cons_append, h.skipType_append, ok_bind,
    skipOffset_append hgap hstop, textBetween_append]
  cases cutAll count s <;> rfl

/-- **Cutting a text** that is laid out in tokens up to a rest comes to this rest. -/
lemma Laid.cutAll_eq (h : Laid s tokens rest) (hcount : s.length ≤ count) :
    ∃ left, rest.length ≤ left ∧ cutAll count s = (cutAll left rest).map (tokens ++ ·) := by
  induction h generalizing count with
  | start =>
    refine ⟨count, hcount, ?_⟩
    cases cutAll count _ <;> rfl
  | @token u gap s rest tokens h hgap hstop _ ih =>
    have hpos := List.length_pos_iff.mpr h.ne_nil
    simp only [List.length_append] at hcount
    obtain ⟨n, rfl⟩ : ∃ n, count = n + 1 := ⟨count - 1, by omega⟩
    have hshort : s.length ≤ n := by omega
    obtain ⟨left, hleft, hcut⟩ := ih hshort
    refine ⟨left, hleft, ?_⟩
    rw [cutAll_token h hgap hstop, hcut]
    cases cutAll left rest <;> rfl

/-- A text that starts with no token is not cut. -/
lemma cutAll_of_skipType {e : Cut} (hne : s ≠ []) (hcount : s.length ≤ count)
    (h : skipType s = .error e) : cutAll count s = .error e := by
  obtain ⟨c, s, rfl⟩ := List.exists_cons_of_ne_nil hne
  rw [List.length_cons] at hcount
  obtain ⟨n, rfl⟩ : ∃ n, count = n + 1 := ⟨count - 1, by omega⟩
  rw [cutAll, h]
  rfl

lemma Torn.ne_nil (h : Torn s) : s ≠ [] := by
  obtain ⟨signs, c, rest, rfl, -, -⟩ := h
  simp

/-- Every text is laid out in tokens up to a rest that is empty or starts with no token. -/
lemma exists_laid (s : List Char) :
    ∃ tokens rest, Laid s tokens rest ∧
      (rest = [] ∨ rest ≠ [] ∧ skipType rest = .error .truncated ∨ Torn rest) := by
  -- what is left behind a token and its offset is shorter than the text
  induction hlen : s.length using Nat.strong_induction_on generalizing s with
  | _ n ih =>
    by_cases hnil : s = []
    · exact ⟨[], s, .start, .inl hnil⟩
    rcases skipType_cases s with ⟨u, rest, rfl, hu⟩ | htruncated | htorn
    · obtain ⟨gap, hrest, hgap, hstop⟩ := exists_offset rest
      have hpos := List.length_pos_iff.mpr hu.ne_nil
      have hle : (skipOffset rest).length ≤ rest.length := (List.dropWhile_suffix _).length_le
      rw [List.length_append] at hlen
      obtain ⟨tokens, left, hlaid, hleft⟩ := ih (skipOffset rest).length (by omega) _ rfl
      rw [hrest] at hu ⊢
      exact ⟨String.ofList u :: tokens, left, .token hu hgap hstop hlaid, hleft⟩
    · exact ⟨[], s, .start, .inr (.inl ⟨hnil, htruncated⟩)⟩
    · exact ⟨[], s, .start, .inr (.inr htorn)⟩

lemma Laid.cut_eq (h : Laid types.toList tokens []) : cut types = .ok tokens := by
  obtain ⟨left, -, hcut⟩ := h.cutAll_eq le_rfl
  rw [cut, hcut]
  cases left <;> simp [cutAll, Except.map]

lemma Straddles.cut_eq (h : Straddles types) : cut types = .error .insideCharacter := by
  obtain ⟨tokens, rest, hlaid, htorn⟩ := h
  obtain ⟨left, hleft, hcut⟩ := hlaid.cutAll_eq le_rfl
  rw [cut, hcut, cutAll_of_skipType htorn.ne_nil hleft htorn.skipType_eq]
  rfl

/-- **Cutting a type string** gives the tokens that it is laid out in, or it ends in a token, or a
character of several bytes stands for a type in it. -/
lemma cut_cases (types : String) :
    (∃ tokens, Laid types.toList tokens []) ∨ cut types = .error .truncated ∨ Straddles types := by
  obtain ⟨tokens, rest, hlaid, rfl | ⟨hne, htruncated⟩ | htorn⟩ := exists_laid types.toList
  · exact .inl ⟨tokens, hlaid⟩
  · obtain ⟨left, hleft, hcut⟩ := hlaid.cutAll_eq le_rfl
    rw [cut, hcut, cutAll_of_skipType hne hleft htruncated]
    exact .inr (.inl rfl)
  · exact .inr (.inr ⟨tokens, rest, hlaid, htorn⟩)

/-- **What a type string is cut into** is what it is laid out in. -/
theorem cut_eq_ok_iff : cut types = .ok tokens ↔ Laid types.toList tokens [] := by
  constructor
  · intro h
    rcases cut_cases types with ⟨tokens', hlaid⟩ | htruncated | hstraddles
    · rw [hlaid.cut_eq] at h
      cases h
      exact hlaid
    · rw [htruncated] at h
      cases h
    · rw [hstraddles.cut_eq] at h
      cases h
  · exact Laid.cut_eq

/-- **A type string is torn apart** just if a character of several bytes stands for a type in it. -/
theorem cut_eq_insideCharacter_iff : cut types = .error .insideCharacter ↔ Straddles types := by
  constructor
  · intro h
    rcases cut_cases types with ⟨tokens', hlaid⟩ | htruncated | hstraddles
    · rw [hlaid.cut_eq] at h
      cases h
    · rw [htruncated] at h
      cases h
    · exact hstraddles
  · exact Straddles.cut_eq

end Laid

end MessageBridge.Token
