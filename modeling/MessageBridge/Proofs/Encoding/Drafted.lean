import MessageBridge.Proofs.Encoding.CLayout
import MessageBridge.Proofs.Encoding.InlineStruct

/-!
# Drafted layouts

A translator learns layouts in one way only: it reads a struct encoding. So whatever it has read, each of
its layouts was laid out by the C rules, and so is each struct in what it translates. Therefore no type is
aligned more strictly than a word.

## Main definitions

* `Translator.Drafted` — what registrations lead to from the empty translator.

## Main results

* `Translator.Drafted.built_of_translate` — what is translated is laid out by the C rules.
* `Shape.Built.alignment_le` — no type is aligned more strictly than a word.
-/

namespace MessageBridge

lemma foldr_max_le {as : List Nat} {n : Nat} (hn : 1 ≤ n) (h : ∀ a ∈ as, a ≤ n) :
    as.foldr max 1 ≤ n := by
  induction as with
  | nil => exact hn
  | cons a as ih =>
    obtain ⟨ha, has⟩ := List.forall_mem_cons.mp h
    exact Nat.max_le.mpr ⟨ha, ih has⟩

/-- **Alignments** are at most that of a word. -/
lemma Shape.Built.alignment_le {s : Shape} (h : s.Built) : s.alignment ≤ wordSize := by
  induction h with
  | scalar p => cases p <;> decide
  | address h =>
    next s =>
    cases s with
    | scalar | aggregate => cases h
    | object | classRef | selector | cString | pointer => exact Nat.le_refl _
  | aggregate name h ih =>
    rw [Shape.alignment, Layout.alignment_ofFields]
    exact foldr_max_le (by decide) (List.forall_mem_map.mpr ih)

namespace Encoding

mutual

/-- **What is read** is laid out by the C rules if the known layouts are. -/
lemma Spells.built {layout? : String → Option Layout} {named : Bool} {u : List Char} {shape : Shape}
    {tail : Tail} (hknown : ∀ name l, layout? name = some l → (Shape.aggregate l).Built) :
    Spells layout? named u shape tail → shape.Built
  | .scalar p => .scalar p
  | .object | .block | .className _ | .classRef | .selector | .cString | .unknown | .pointer _ _ =>
    .address rfl
  | .known _ h => hknown _ _ h
  | @Spells.struct _ _ _ name _ fields _ _ h _ => by
    have hown : (Shape.aggregate (.ofFields (String.ofList name) fields)).Built :=
      .aggregate _ (h.built hknown)
    unfold structLayout
    split
    · exact hown
    · rcases adoptNames_eq layout? (.ofFields (String.ofList name) fields) with ⟨heq, -⟩ | ⟨heq, -⟩
      · rwa [heq]
      · exact hknown _ _ heq

lemma SpellsFields.built {layout? : String → Option Layout} {named : Bool} {body : List Char}
    {fields : List (Option String × Descriptor)}
    (hknown : ∀ name l, layout? name = some l → (Shape.aggregate l).Built) :
    SpellsFields layout? named body fields → ∀ f ∈ fields, f.2.shape.Built
  | .nil => nofun
  | .cons _ _ h _ _ hrest => List.forall_mem_cons.mpr ⟨h.built hknown, hrest.built hknown⟩

end

end Encoding

namespace Translator

open Encoding

variable {t : Translator} {e : String} {d : Descriptor} {l : Layout}

/-- **Drafted**: the translator has learned its layouts by reading encodings. -/
inductive Drafted : Translator → Prop
  | empty : Drafted {}
  | register {t : Translator} {e : String} {l : Layout} (h : Drafted t)
      (hl : t.structLayout e = .ok l) : Drafted (t.insert l)

/-- What a translator reads is laid out by the C rules if all that it knows is. -/
lemma built_of_translate_of_layouts (h : ∀ l ∈ t.layouts, (Shape.aggregate l).Built)
    (hd : t.translate e = .ok d) : d.shape.Built := by
  have hknown (name : String) (l : Layout) (hl : t.layout? name = some l) :
      (Shape.aggregate l).Built := h l (List.mem_of_find?_eq_some hl)
  unfold translate at hd
  split at hd
  · next hread =>
    cases hd
    obtain ⟨_, _, _, _, -, -, hspells, rfl, -⟩ := readOne_eq_ok_iff.mp hread
    exact hspells.built hknown
  · cases hd
  · cases hd

lemma built_of_structLayout (h : ∀ l ∈ t.layouts, (Shape.aggregate l).Built)
    (hl : t.structLayout e = .ok l) : (Shape.aggregate l).Built := by
  obtain ⟨d, hd, hl⟩ := bind_eq_ok.mp hl
  have hbuilt := built_of_translate_of_layouts h hd
  split at hl
  · next hshape =>
    cases hl
    rwa [hshape] at hbuilt
  · cases hl

namespace Drafted

lemma built (h : t.Drafted) : ∀ l ∈ t.layouts, (Shape.aggregate l).Built := by
  induction h with
  | empty => nofun
  | register h hl ih => exact List.forall_mem_cons.mpr ⟨built_of_structLayout ih hl, ih⟩

/-- **Translations** are laid out by the C rules. -/
theorem built_of_translate (h : t.Drafted) (hd : t.translate e = .ok d) : d.shape.Built :=
  built_of_translate_of_layouts h.built hd

end Drafted

end Translator

end MessageBridge
