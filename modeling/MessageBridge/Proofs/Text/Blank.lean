import MessageBridge.Text.Blank
import Mathlib.Data.List.DropRight

/-!
# Blanks at the ends

What is left of a text without the blanks at its ends is the one part of it that has nothing but blanks
before and behind it and that neither begins nor ends with one.

## Main definitions

* `Text.Trimmed` — the part of a text between the blanks at its ends.

## Main results

* `Text.trimList_eq_iff` — removing the blanks leaves this part.
* `Text.trimList_append_cons` — a character that is no blank keeps what is beside it.
-/

namespace MessageBridge.Text

variable {s core : List Char}

/-- **Trimmed**: the core lies between blanks and has no blank at its ends. -/
def Trimmed (s core : List Char) : Prop :=
  (∃ before behind, s = before ++ core ++ behind ∧ (∀ c ∈ before, isBlank c = true) ∧
    ∀ c ∈ behind, isBlank c = true) ∧
  (∀ c ∈ core.head?, isBlank c = false) ∧ ∀ c ∈ core.getLast?, isBlank c = false

lemma trimList_eq_rdropWhile (s : List Char) :
    trimList s = (s.dropWhile isBlank).rdropWhile isBlank := rfl

/-- What is left in front of the blanks at the end does not end with one. -/
lemma isBlank_of_mem_getLast? {c : Char} (hc : c ∈ (s.rdropWhile isBlank).getLast?) :
    isBlank c = false := by
  have hne := List.ne_nil_of_mem (List.mem_of_mem_getLast? hc)
  have hnot := List.rdropWhile_last_not isBlank s hne
  rw [List.getLast_of_mem_getLast? hc] at hnot
  simpa using hnot

/-- What is left is trimmed. -/
lemma trimmed_trimList (s : List Char) : Trimmed s (trimList s) := by
  rw [trimList_eq_rdropWhile]
  refine ⟨⟨s.takeWhile isBlank, (s.dropWhile isBlank).rtakeWhile isBlank, ?_, ?_, ?_⟩,
    fun c hc => ?_, fun c hc => isBlank_of_mem_getLast? hc⟩
  · rw [List.append_assoc, List.rdropWhile_append_rtakeWhile, List.takeWhile_append_dropWhile]
  · exact fun c hc => List.mem_takeWhile_imp hc
  · exact fun c hc => List.mem_rtakeWhile_imp hc
  · obtain ⟨rest, hrest⟩ := List.rdropWhile_prefix isBlank (s.dropWhile isBlank)
    have hhead : c ∈ (s.dropWhile isBlank).head? := by
      rw [← hrest, List.head?_append, hc]
      rfl
    have hfirst := List.head?_dropWhile_not isBlank s
    rw [hhead] at hfirst
    simpa using hfirst

/-- Blanks behind a text that does not end with one. -/
lemma rdropWhile_append {behind : List Char} (hbehind : ∀ c ∈ behind, isBlank c = true)
    (hlast : ∀ c ∈ core.getLast?, isBlank c = false) :
    (core ++ behind).rdropWhile isBlank = core := by
  have hself : core.rdropWhile isBlank = core :=
    List.rdropWhile_eq_self_iff.mpr fun hne => by
      simp [hlast _ (List.getLast_mem_getLast? hne)]
  rw [List.rdropWhile, List.reverse_append,
    List.dropWhile_append_of_pos fun c hc => hbehind c (List.mem_reverse.mp hc)]
  exact hself

/-- Nothing else is trimmed. -/
lemma Trimmed.trimList_eq (h : Trimmed s core) : trimList s = core := by
  obtain ⟨⟨before, behind, rfl, hbefore, hbehind⟩, hhead, hlast⟩ := h
  rw [trimList_eq_rdropWhile, List.append_assoc, List.dropWhile_append_of_pos hbefore]
  cases core with
  | nil =>
    rw [List.nil_append, List.dropWhile_eq_nil_iff.mpr hbehind]
    rfl
  | cons c core =>
    have hc : isBlank c = false := hhead c rfl
    rw [List.cons_append, List.dropWhile_cons_of_neg (by simp [hc]), ← List.cons_append]
    exact rdropWhile_append hbehind hlast

/-- **Trimming**: removing the blanks at the ends leaves what lies between them. -/
theorem trimList_eq_iff : trimList s = core ↔ Trimmed s core :=
  ⟨fun h => h ▸ trimmed_trimList s, Trimmed.trimList_eq⟩

/-- Nothing is left of blanks only. -/
lemma trimList_eq_nil_iff : trimList s = [] ↔ ∀ c ∈ s, isBlank c = true := by
  rw [trimList_eq_iff]
  constructor
  · rintro ⟨⟨before, behind, rfl, hbefore, hbehind⟩, -⟩ c hc
    rw [List.append_nil, List.mem_append] at hc
    exact hc.elim (hbefore c) (hbehind c)
  · exact fun h => ⟨⟨s, [], by simp, h, by simp⟩, by simp, by simp⟩

/-- Once is enough. -/
@[simp] lemma trimList_trimList (s : List Char) : trimList (trimList s) = trimList s :=
  Trimmed.trimList_eq ⟨⟨[], [], by simp, by simp, by simp⟩, (trimmed_trimList s).2⟩

@[simp] lemma trimList_dropWhile (s : List Char) : trimList (s.dropWhile isBlank) = trimList s := by
  rw [trimList_eq_rdropWhile, List.dropWhile_idempotent, trimList_eq_rdropWhile]

/-- Text on both sides of a character that is no blank loses blanks on its far end only. -/
lemma trimList_append_cons {c : Char} (hc : isBlank c = false) (s t : List Char) :
    trimList (s ++ c :: t) = s.dropWhile isBlank ++ c :: t.rdropWhile isBlank := by
  have hleft : (s ++ c :: t).dropWhile isBlank = s.dropWhile isBlank ++ c :: t := by
    rw [List.dropWhile_append]
    split
    · next h => rw [List.isEmpty_iff.mp h, List.dropWhile_cons_of_neg (by simp [hc]), List.nil_append]
    · rfl
  have hright (u : List Char) : (u ++ c :: t).rdropWhile isBlank = u ++ c :: t.rdropWhile isBlank := by
    conv_lhs => rw [← List.rdropWhile_append_rtakeWhile (p := isBlank) (l := t), ← List.cons_append,
      ← List.append_assoc]
    refine rdropWhile_append (fun d hd => List.mem_rtakeWhile_imp hd) fun d hd => ?_
    rw [List.getLast?_append, List.getLast?_cons] at hd
    cases hlast : (t.rdropWhile isBlank).getLast? with
    | none =>
      rw [hlast] at hd
      obtain rfl : c = d := by simpa using hd
      exact hc
    | some e =>
      rw [hlast] at hd
      obtain rfl : e = d := by simpa using hd
      exact isBlank_of_mem_getLast? hlast
  rw [trimList_eq_rdropWhile, hleft, hright]

@[simp] lemma trimList_rdropWhile (s : List Char) :
    trimList (s.rdropWhile isBlank) = trimList s := by
  obtain ⟨⟨before, behind, heq, hbefore, hbehind⟩, hends⟩ := trimmed_trimList (s.rdropWhile isBlank)
  refine (Trimmed.trimList_eq ⟨⟨before, behind ++ s.rtakeWhile isBlank, ?_, hbefore, ?_⟩,
    hends⟩).symm
  · rw [← List.append_assoc, ← heq, List.rdropWhile_append_rtakeWhile]
  · exact fun c hc => (List.mem_append.mp hc).elim (hbehind c) List.mem_rtakeWhile_imp

end MessageBridge.Text
