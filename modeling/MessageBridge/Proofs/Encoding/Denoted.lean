import MessageBridge.Proofs.Encoding.Tokens
import MessageBridge.Proofs.Encoding.TypeString

/-!
# What a type string denotes

The object space cuts the type string of a method into tokens, and a context translates them one by
one. The signature that comes out depends on nothing but the text and the layouts that the context
knows. Signatures are kept under texts. This module says which texts cannot be mistaken for others:
what is denoted by the type string of an assumed signature is that signature, and no type string of a
signature that was read can be the text under which a function is kept.

## Main definitions

* `Token.argumentTexts` — the texts of the arguments.
* `Translator.denoted?` — the signature that a type string denotes.
* `Signature.functionKey` — the text under which the signature of a function is kept.
* `Signature.Written` — the text is the type string of a signature that was read.

## Main results

* `Translator.eq_assumed_of_denoted?` — the type string of an assumed signature denotes it.
* `Signature.Written.ne_functionKey` — such a text is not that of a function.
-/

namespace MessageBridge

open Encoding

/-! ## Tokens -/

namespace Token

/-- The texts of the arguments among the tokens of a type string. Their positions are counted in 32
bits. -/
def argumentTexts (tokens : List String) : List String :=
  ((List.range (tokens.length - 1)).map fun i =>
    if i < 0x100000000 then tokens[i + 1]? else none).filterMap id

/-- Reading a list by positions, up to a bound, gives its front. -/
lemma filterMap_range_getElem? {α : Type} (l : List α) (n : Nat) :
    (List.range l.length).filterMap (fun i => if i < n then l[i]? else none) = l.take n := by
  induction l generalizing n with
  | nil => simp
  | cons a l ih =>
    rw [List.length_cons, List.range_succ_eq_map, List.filterMap_cons, List.filterMap_map]
    cases n with
    | zero => simp
    | succ n => simpa [Function.comp_def] using ih n

lemma argumentTexts_cons (ret : String) (args : List String) :
    argumentTexts (ret :: args) = args.take 0x100000000 := by
  rw [← filterMap_range_getElem?, argumentTexts, List.filterMap_map, List.length_cons,
    Nat.add_sub_cancel]
  rfl

/-- A token of one sign of an object. -/
lemma cutAll_object {c : Char} (hmark : c ≠ '?') (hquote : c ≠ '"') (hoffset : isOffset c = false)
    (count : Nat) (rest : List Char) :
    cutAll (count + 1) ('@' :: c :: rest) =
      (cutAll count (c :: rest)).map fun tokens => "@" :: tokens := by
  have hskip : skipOffset (c :: rest) = c :: rest := List.dropWhile_cons_of_neg (by simp [hoffset])
  have htext : textBetween ('@' :: c :: rest) (c :: rest) = "@" := textBetween_append ['@'] _
  rw [cutAll, skipType_object hmark hquote, ok_bind, hskip, htext]
  rfl

/-- Signs of objects are tokens of their own. -/
lemma cutAll_replicate (n : Nat) :
    cutAll n (List.replicate n '@') = .ok (List.replicate n "@") := by
  induction n with
  | zero => rfl
  | succ n ih =>
    cases n with
    | zero => rfl
    | succ n =>
      rw [List.replicate_succ, List.replicate_succ,
        cutAll_object (by decide) (by decide) (by decide), ← List.replicate_succ, ih]
      rfl

/-- The tokens of the type string of an assumed signature. -/
lemma cut_assumed (n : Nat) : cut (Signature.assumed n).encoding =
    .ok ("@" :: "@" :: ":" :: List.replicate n "@") := by
  have hargs : (List.replicate n "@").flatMap String.toList = List.replicate n '@' := by
    induction n with
    | zero => rfl
    | succ n ih => rw [List.replicate_succ, List.flatMap_cons, ih]; rfl
  have htext : (Signature.assumed n).encoding.toList = '@' :: '@' :: ':' :: List.replicate n '@' := by
    rw [← hargs]
    simp [Signature.encoding, Signature.assumed, String.toList_join, Descriptor.object,
      Descriptor.selector, Descriptor.encoding]
  have hselector : cutAll (n + 1) (':' :: List.replicate n '@') = .ok (":" :: List.replicate n "@") := by
    have hskip : skipOffset (List.replicate n '@') = List.replicate n '@' := by
      cases n <;> rfl
    have htext : textBetween (':' :: List.replicate n '@') (List.replicate n '@') = ":" :=
      textBetween_append [':'] _
    have htype : skipType (':' :: List.replicate n '@') = .ok (List.replicate n '@') := rfl
    rw [cutAll, htype, ok_bind, hskip, htext, cutAll_replicate]
    rfl
  rw [cut, htext, List.length_cons, List.length_cons, List.length_cons, List.length_replicate,
    cutAll_object (by decide) (by decide) (by decide),
    cutAll_object (by decide) (by decide) (by decide), hselector]
  rfl

end Token

/-! ## Signatures -/

namespace Translator

variable {t : Translator}

/-- The signature that a type string denotes, if it denotes one. -/
def denoted? (t : Translator) (types : String) : Option Signature :=
  match Token.cut types with
  | .ok (ret :: args) => (t.signatureOfParts ret (args.take 0x100000000)).toOption
  | _ => none

/-- A type string that denotes a signature denotes that of a method. -/
lemma isMethod_of_denoted? {types : String} {s : Signature} (h : t.denoted? types = some s) :
    s.isMethod = true := by
  unfold denoted? at h
  split at h
  · next ret args hcut =>
    cases hparts : t.signatureOfParts ret (args.take 0x100000000) with
    | error e =>
      rw [hparts] at h
      cases h
    | ok s' =>
      rw [hparts] at h
      obtain rfl : s' = s := Option.some.inj h
      unfold signatureOfParts at hparts
      obtain ⟨d, -, hparts⟩ := bind_eq_ok.mp hparts
      obtain ⟨ds, -, hparts⟩ := bind_eq_ok.mp hparts
      simp only [Signature.method] at hparts
      split at hparts
      · next hmethod =>
        cases hparts
        exact hmethod
      · cases hparts
  · cases h

/-- A sign of an object is read without any layouts. -/
lemma translate_object : t.translate "@" = .ok .object := rfl

lemma translate_selector : t.translate ":" = .ok .selector := rfl

lemma translateAll_replicate (n : Nat) :
    t.translateAll (List.replicate n "@") = .ok (List.replicate n .object) := by
  induction n with
  | zero => rfl
  | succ n ih =>
    rw [translateAll, List.replicate_succ, List.mapM_cons, translate_object, ok_bind,
      ← translateAll, ih]
    rfl

/-- What the type string of an assumed signature denotes. -/
lemma denoted?_assumed (n : Nat) : t.denoted? (Signature.assumed n).encoding =
    some (.assumed (min 0xfffffffe n)) := by
  have htake : ("@" :: ":" :: List.replicate n "@").take 0x100000000 =
      "@" :: ":" :: List.replicate (min 0xfffffffe n) "@" := by
    rw [show 0x100000000 = 0xfffffffe + 1 + 1 from rfl, List.take_succ_cons, List.take_succ_cons,
      List.take_replicate]
  have hall : t.translateAll ("@" :: ":" :: List.replicate (min 0xfffffffe n) "@") =
      .ok (.object :: .selector :: List.replicate (min 0xfffffffe n) .object) := by
    rw [translateAll, List.mapM_cons, translate_object, ok_bind, List.mapM_cons, translate_selector,
      ok_bind, ← translateAll, translateAll_replicate]
    rfl
  rw [denoted?, Token.cut_assumed]
  simp only [htake, signatureOfParts, translate_object, ok_bind, hall]
  rfl

/-- **The type string of an assumed signature** denotes it, if not so many arguments are read that some
are left out. -/
theorem eq_assumed_of_denoted? {n : Nat} {s : Signature}
    (h : t.denoted? (Signature.assumed n).encoding = some s) (hshort : s.args.length < 0x100000000) :
    s = .assumed n := by
  obtain rfl : Signature.assumed (min 0xfffffffe n) = s := Option.some.inj (denoted?_assumed n ▸ h)
  simp only [Signature.assumed, List.length_cons, List.length_replicate] at hshort
  rw [Nat.min_eq_right (by omega)]

end Translator

/-- The text under which the signature of a function is kept. -/
def Signature.functionKey (s : Signature) : String := "fn " ++ s.encoding

/-- **Written**: the text is the type string of a signature that was read. -/
def Signature.Written (types : String) : Prop :=
  ∃ (t : Translator) (source : String) (s : Signature),
    t.parseSignature source = .ok s ∧ types = s.encoding

/-- **The type string of a method** that was read is no text under which a function is kept. -/
theorem Signature.Written.ne_functionKey {types : String} (h : Written types) (s' : Signature) :
    types ≠ s'.functionKey := by
  intro heq
  obtain ⟨t, source, s, hread, rfl⟩ := h
  have hspelled := Translator.spelled_of_readAll (Translator.parseSignature_eq_ok_iff.mp hread).1
  have htext : s.ret.encoding.toList ++ s.args.flatMap (·.encoding.toList) =
      'f' :: 'n' :: ' ' :: s'.encoding.toList := by
    have hkey := congrArg String.toList heq
    rw [Signature.functionKey, String.toList_append] at hkey
    simpa [Signature.encoding, String.toList_join, List.flatMap_map] using hkey
  -- the result is the number that stands for itself, and no type starts with a qualifier
  obtain ⟨tail, hret⟩ := hspelled s.ret List.mem_cons_self
  have hrest := starts_flatMap fun d hd => hspelled d (List.mem_cons_of_mem _ hd)
  generalize s.args.flatMap (·.encoding.toList) = rest at htext hrest
  generalize s.ret.encoding.toList = u, s.ret.shape = shape at htext hret
  cases hret with
  | scalar p =>
    obtain ⟨-, rfl⟩ := List.cons.inj htext
    exact absurd (hrest 'n' rfl).isQualifier (by decide)
  | _ => simp at htext

end MessageBridge
