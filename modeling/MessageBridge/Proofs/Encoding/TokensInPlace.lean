import MessageBridge.Proofs.Encoding.Cutting
import MessageBridge.Proofs.Encoding.InPlace

/-!
# Tokens cut in place

The object space cuts a type string where it is kept as bytes: it finds the position behind a type, cuts
out the piece and goes on behind the offset. The accesses are checked. A type that is a single byte is
passed without a look at the characters, so that a piece can end inside one; nothing else goes wrong.

## Main definitions

* `Cursor.pastType` — the position behind a type.
* `Cursor.cutTokens` — the tokens of a type string.

## Main results

* `Cursor.cutTokens_eq` — tokens are cut in place as they are cut, and the only slip is a piece that
  ends inside a character.
-/

namespace MessageBridge.Encoding.Cursor

open Token

/-! ## Cutting in place -/

section Cutting

variable (s : String)

/-- The position behind what follows the sign of an object, which is at `i`. -/
def pastObject (i : Nat) : Except Slip (Option Nat) :=
  match byte? s (i + 1) with
  | some c =>
    if c = '?' then return some (i + 2)
    else if c = '"' then do
      let quote? ← find s (· == '"') (i + 2)
      return quote?.map (· + 1)
    else return some (i + 1)
  | none => return some (i + 1)

/-- The position behind the type that starts at `start`, if the text does not end first. -/
def pastType : Nat → Nat → Except Slip (Option Nat)
  | 0, _ => .error .endless
  | n + 1, start => do
    let i ← skip s isQualifier start
    match byte? s i with
    | none => return none
    | some c =>
      if c = '^' then pastType n (i + 1)
      else if c = '\x7b' then close s '\x7b' '\x7d' i
      else if c = '(' then close s '(' ')' i
      else if c = '[' then close s '[' ']' i
      else if c = 'b' then some <$> skip s isOffset (i + 1)
      else if c = '@' then pastObject s i
      else return some (i + 1)

/-- The tokens from the position on, if the text does not end in one. -/
def cutFrom : Nat → Nat → Except Slip (Option (List String))
  | 0, _ => .error .endless
  | n + 1, i =>
    if i < s.utf8ByteSize then do
      match ← pastType s (rounds s) i with
      | none => return none
      | some stop =>
        let token ← slice s i stop
        let next ← skip s isOffset stop
        let tokens? ← cutFrom n next
        return tokens?.map (token :: ·)
    else return some []

/-- **The tokens of a type string**, cut in place. -/
def cutTokens : Except Slip (Option (List String)) := cutFrom s (rounds s) 0

end Cutting

/-! ## Positions behind types -/

section Past

variable {s : String} {c : Char} {v rest : List Char} {i start : Nat}

/-- **Found**: what is found in place, from `start` on, where a type was skipped. Where it is torn apart,
the position is inside a character. -/
def Found (s : String) (start : Nat) (y : Except Slip (Option Nat)) :
    Except Cut (List Char) → Prop
  | .ok rest => y = .ok (some (place s rest))
  | .error .truncated => y = .ok none
  | .error .insideCharacter =>
    ∃ i, y = .ok (some i) ∧ start ≤ i ∧ i ≤ s.utf8ByteSize ∧ ¬ String.Pos.Raw.IsValid s ⟨i⟩

lemma Found.mono {y : Except Slip (Option Nat)} {x : Except Cut (List Char)} {start' : Nat}
    (h : Found s start y x) (hle : start' ≤ start) : Found s start' y x := by
  cases x with
  | ok rest => exact h
  | error e =>
    cases e with
    | truncated => exact h
    | insideCharacter =>
      obtain ⟨i, hy, hstart, hi⟩ := h
      exact ⟨i, hy, hle.trans hstart, hi⟩

/-- A group is passed as it is skipped. -/
lemma found_close {b : Bracket} (hv : b.opening :: v <:+ s.toList) :
    Found s start (close s b.opening b.closing (place s (b.opening :: v)))
      (skipType (b.opening :: v)) := by
  have hone : b.opening.utf8Size = 1 := by cases b <;> rfl
  have hone' : b.closing.utf8Size = 1 := by cases b <;> rfl
  have hquote : b.opening ≠ '"' := by cases b <;> decide
  rw [close_place hone hone' hquote hv, skipType_opening]
  cases closeGroup b.opening b.closing 0 false (b.opening :: v) <;> rfl

/-- What belongs to the sign of an object is passed. -/
lemma found_pastObject (hv : '@' :: v <:+ s.toList) :
    Found s start (pastObject s (place s ('@' :: v))) (skipType ('@' :: v)) := by
  have htail : v <:+ s.toList := (List.suffix_cons _ v).trans hv
  have hnext : place s ('@' :: v) + 1 = place s v := place_succ hv rfl
  rw [pastObject, hnext]
  cases v with
  | nil =>
    rw [byte?_place_nil]
    rfl
  | cons c v =>
    have hbehind (hone : c.utf8Size = 1) : place s ('@' :: c :: v) + 2 = place s v := by
      rw [← place_succ htail hone, ← hnext]
    rw [byte?_place_cons htail]
    simp only [leadByte_eq_iff (c := c) (d := '?') rfl, leadByte_eq_iff (c := c) (d := '"') rfl]
    by_cases hmark : c = '?'
    · subst hmark
      rw [if_pos rfl, hbehind rfl]
      rfl
    by_cases hquote : c = '"'
    · subst hquote
      have hv' : v <:+ s.toList := (List.suffix_cons _ v).trans htail
      have hsuffix : v.dropWhile (· != '"') <:+ s.toList := (List.dropWhile_suffix _).trans hv'
      have hhead := List.head?_dropWhile_not (· != '"') v
      have hfind := find_place coarse_quote hv'
      rw [show v.dropWhile (fun c => !(c == '"')) = v.dropWhile (· != '"') from rfl] at hfind
      rw [if_neg hmark, if_pos rfl, hbehind rfl, hfind, skipType_at]
      cases hdrop : v.dropWhile (· != '"') with
      | nil =>
        simp only [hdrop]
        rfl
      | cons d rest =>
        rw [hdrop] at hsuffix hhead
        obtain rfl : d = '"' := by simpa using hhead
        have hclosed : place s ('"' :: rest) + 1 = place s rest := place_succ hsuffix rfl
        simp only [hdrop, ok_bind, Option.map_some, hclosed]
        rfl
    · rw [if_neg hmark, if_neg hquote, skipType_object hmark hquote]
      rfl

/-- A type that is a single byte is passed, whatever character it belongs to. -/
lemma found_code (hv : c :: v <:+ s.toList) (hc : isOpen c = false)
    (hstart : start ≤ place s (c :: v)) :
    Found s start (.ok (some (place s (c :: v) + 1))) (skipType (c :: v)) := by
  rw [skipType_code_eq hc]
  by_cases hone : c.utf8Size = 1
  · rw [if_pos hone, place_succ hv hone]
    rfl
  · have hpos := c.utf8Size_pos
    have hinside : place s (c :: v) + 1 ≤ s.utf8ByteSize := place_lt hv
    rw [if_neg hone]
    exact ⟨_, rfl, by omega, hinside, not_isValid_inside hv Nat.one_pos (by omega)⟩

/-- **A type is passed** as it is skipped. -/
lemma found_pastType {n : Nat} (hv : v <:+ s.toList) (hn : v.length < n) :
    Found s (place s v) (pastType s n (place s v)) (skipType v) := by
  induction n generalizing v with
  | zero => exact absurd hn (Nat.not_lt_zero _)
  | succ n ih =>
    obtain ⟨q, hq, hsplit, hhead⟩ := exists_qualifiers v
    have hsuffix : skipQualifiers v <:+ v := List.dropWhile_suffix _
    have hskip : skip s isQualifier (place s v) = .ok (place s (skipQualifiers v)) :=
      skip_place coarse_isQualifier hv
    have htype : skipType v = skipType (skipQualifiers v) := by
      conv_lhs => rw [hsplit]
      exact skipType_signs (fun c hc => by simp [isSign, hq c hc]) _
    have hle := place_le_place (s := s) hsuffix
    rw [pastType, hskip, htype, ok_bind]
    generalize skipQualifiers v = w at *
    cases w with
    | nil =>
      rw [byte?_place_nil]
      rfl
    | cons c w =>
      have hcw : c :: w <:+ s.toList := hsuffix.trans hv
      have hw : w <:+ s.toList := (List.suffix_cons c w).trans hcw
      have hlen := hsuffix.length_le
      rw [List.length_cons] at hlen
      have hlead {d : Char} (hd : d.utf8Size = 1) := leadByte_eq_iff (c := c) hd
      rw [byte?_place_cons hcw]
      simp only [hlead (d := '^') rfl, hlead (d := '\x7b') rfl, hlead (d := '(') rfl,
        hlead (d := '[') rfl, hlead (d := 'b') rfl, hlead (d := '@') rfl]
      split_ifs with hpointer hstruct hunion harray hbits hobject
      · subst hpointer
        rw [place_succ hcw rfl, skipType_cons rfl]
        exact (ih hw (by omega)).mono (hle.trans (place_le_place (List.suffix_cons _ w)))
      · subst hstruct
        exact found_close (b := .curly) hcw
      · subst hunion
        exact found_close (b := .round) hcw
      · subst harray
        exact found_close (b := .square) hcw
      · subst hbits
        rw [place_succ hcw rfl, skip_place coarse_isOffset hw]
        rfl
      · subst hobject
        exact found_pastObject hcw
      · have hsign : isSign c = false := by
          simp [isSign, hhead c rfl, hpointer]
        refine found_code hcw ?_ hle
        simp [isOpen, hsign, hstruct, hunion, harray, hbits, hobject]

end Past

/-! ## All tokens -/

section Tokens

variable {s : String} {v : List Char} {n count : Nat}

/-- What is seen in place of cutting into tokens. -/
def seen : Except Cut (List String) → Except Slip (Option (List String))
  | .ok tokens => .ok (some tokens)
  | .error .truncated => .ok none
  | .error .insideCharacter => .error .insideCharacter

lemma seen_token (token : String) (x : Except Cut (List String)) :
    (do let tokens? ← seen x; return tokens?.map (token :: ·)) =
      seen (do let tokens ← x; return token :: tokens) := by
  cases x with
  | ok tokens => rfl
  | error e => cases e <;> rfl

lemma cutFrom_place (hv : v <:+ s.toList) (hn : v.length < n) (hcount : v.length ≤ count) :
    cutFrom s n (place s v) = seen (cutAll count v) := by
  induction n generalizing v count with
  | zero => exact absurd hn (Nat.not_lt_zero _)
  | succ n ih =>
    cases v with
    | nil =>
      have hcut : cutAll count [] = .ok [] := by cases count <;> rfl
      rw [cutFrom, place_nil, if_neg (Nat.lt_irrefl _), hcut]
      rfl
    | cons c v =>
      obtain ⟨count, rfl⟩ : ∃ k, count = k + 1 := ⟨count - 1, by
        rw [List.length_cons] at hcount
        omega⟩
      have hfound := found_pastType hv (length_lt_rounds hv)
      rw [cutFrom, if_pos (place_lt hv), cutAll]
      cases hskip : skipType (c :: v) with
      | ok rest =>
        obtain ⟨u, htext, hspans⟩ := skipType_eq_ok_iff.mp hskip
        have hpos := List.length_pos_iff.mpr hspans.ne_nil
        have hrest : rest <:+ c :: v := htext ▸ List.suffix_append u rest
        have hbehind : skipOffset rest <:+ rest := List.dropWhile_suffix _
        have hoffset := hbehind.length_le
        have hlen : (c :: v).length = u.length + rest.length := by rw [htext, List.length_append]
        have hnext : skip s isOffset (place s rest) = .ok (place s (skipOffset rest)) :=
          skip_place coarse_isOffset (hrest.trans hv)
        rw [hskip] at hfound
        rw [show pastType s (rounds s) (place s (c :: v)) = _ from hfound, ok_bind, ok_bind,
          ← seen_token, ← ih (hbehind.trans (hrest.trans hv)) (by omega) (by omega)]
        simp only [slice_place hrest hv, ok_bind, hnext]
      | error e =>
        rw [hskip] at hfound
        cases e with
        | truncated =>
          rw [show pastType s (rounds s) (place s (c :: v)) = _ from hfound]
          rfl
        | insideCharacter =>
          obtain ⟨i, hpast, hstart, hi, hvalid⟩ := hfound
          have hslice : slice s (place s (c :: v)) i = .error .insideCharacter := by
            rw [slice, if_pos ⟨hstart, hi⟩, if_neg fun h => hvalid h.2]
          rw [hpast, ok_bind]
          simp only [hslice]
          rfl

/-- **Tokens are cut in place** as they are cut. -/
theorem cutTokens_eq (s : String) : cutTokens s = seen (cut s) := by
  have hlen : s.toList.length < rounds s := length_lt_rounds List.suffix_rfl
  rw [cutTokens, cut, ← cutFrom_place List.suffix_rfl hlen le_rfl, place_toList]

end Tokens

end MessageBridge.Encoding.Cursor
