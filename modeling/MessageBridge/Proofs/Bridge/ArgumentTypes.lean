import MessageBridge.Proofs.Bridge.Keeping
import MessageBridge.Proofs.Encoding.TokensInPlace
import MessageBridge.Space.Entry

/-!
# Asking for argument types

Whatever text a method was added with, its type string is cut where the types of its arguments are
asked for. If it is cut, the pieces are what the text is laid out in, their number is the number of
arguments, and each argument below this number has a type and no other has one. If it ends in a token,
there are no arguments. This is so up to two exceptions: a type that is a character of several bytes
tears the text apart, and a number of arguments that no word of 32 bits can hold is answered as the
largest one.

## Main definitions

* `Act.argumentWord` — the number of arguments as the object space answers it.
* `Act.Introspectable` — cutting the type string and asking for argument types go together.

## Main results

* `ClassTable.types_of_added` — an added method keeps the text it was added with.
* `Act.introspectable_iff` — when the type string of a method that was added can be asked for.
-/

namespace MessageBridge

/-! ## The method that was added -/

namespace ClassTable

/-- A method that was added has the type string it was added with. -/
lemma types_of_added {t t' : ClassTable} {c : ClassId} {sel : Selector} {imp : Implementation}
    {types : String} (hc : t.Has c) (h : t.addMethod? c sel imp types = some t') :
    (t'.method? ⟨c, sel⟩).map Method.types = some types := by
  unfold addMethod? at h
  split at h
  · cases h
  · next hnone =>
    cases h
    have hfree : (t.get c).methods.find? (·.selector == sel) = none := by
      simpa [ClassRecord.method?] using hnone
    have hget : ((t.modify c fun r =>
        { r with methods := r.methods ++ [⟨sel, types, some imp⟩] }).invalidate.get c).methods =
        (t.get c).methods ++ [⟨sel, types, some imp⟩] := by
      rw [get_invalidate, get_modify, if_pos ⟨rfl, hc⟩]
    rw [method?, ClassRecord.method?, hget, List.find?_append, hfree]
    simp

end ClassTable

namespace Act

/-! ## Counting and asking -/

/-- The number of arguments as the object space answers it, in a word of 32 bits: what is larger than
the largest word becomes the largest word. -/
def argumentWord (m : MethodRef) : Act UInt32 :=
  return UInt32.ofNat (min (← argumentCount m) 0xffffffff)

section Asking

variable {b : Bridge} {m : MethodRef} {types : String} {tokens : List String}

/-- What the tokens are where the method has the type string. -/
lemma run_typeTokens (hm : (b.space.classes.method? m).map Method.types = some types) :
    EStateM.run (typeTokens m) b =
      match Token.cut types with
      | .ok tokens => .ok tokens b
      | .error .truncated => .ok [] b
      | .error .insideCharacter => .error (.fault .insideCharacter) b := by
  have hmethod : EStateM.run (methodOf m) b = .ok (b.space.classes.method? m) b := rfl
  unfold typeTokens
  rw [run_bind_ok hmethod, hm, Option.getD_some]
  cases Token.cut types with
  | ok tokens => rfl
  | error e => cases e <;> rfl

/-- The number of arguments is one less than that of the tokens. -/
lemma run_argumentWord (h : EStateM.run (typeTokens m) b = .ok tokens b) :
    EStateM.run (argumentWord m) b =
      .ok (UInt32.ofNat (min (tokens.length - 1) 0xffffffff)) b := by
  have hcount : EStateM.run (argumentCount m) b = .ok (tokens.length - 1) b := by
    unfold argumentCount
    rw [run_bind_ok h]
    rfl
  unfold argumentWord
  rw [run_bind_ok hcount]
  rfl

/-- The arguments of a method are not counted if its type string would be torn apart. -/
lemma run_argumentWord_of_straddles (hm : (b.space.classes.method? m).map Method.types = some types)
    (h : Token.Straddles types) :
    EStateM.run (argumentWord m) b = .error (.fault .insideCharacter) b := by
  have htokens : EStateM.run (typeTokens m) b = .error (.fault .insideCharacter) b := by
    rw [run_typeTokens hm, h.cut_eq]
  unfold argumentWord argumentCount
  exact run_bind_error (run_bind_error htokens)

/-- The type of an argument is the token behind that of the result and those of the arguments before
it. -/
lemma exists_run_argumentType (h : EStateM.run (typeTokens m) b = .ok tokens b) (index : UInt32) :
    ∃ b', EStateM.run (argumentType m index.toNat) b = .ok tokens[index.toNat + 1]? b' := by
  have hword : index.toNat < 0x100000000 := index.toNat_lt
  obtain ⟨loans, hborrow⟩ := exists_run_borrowText (b := b) tokens[index.toNat + 1]? b.loans
  refine ⟨{ b with loans }, ?_⟩
  unfold argumentType
  rw [if_pos hword, run_bind_ok h]
  exact hborrow

end Asking

/-! ## Type strings that can be asked for -/

/-- **Introspectable**: the type string is cut without a slip; what it is cut into are its pieces in
their order, none of them empty, with nothing but digits and minus signs between and after them; an
argument has a type just if its index is below the number of arguments; and if the type string ends in
a token, there are no arguments. -/
structure Introspectable (types : String) (m : MethodRef) (b : Bridge) : Prop where
  returns : ∃ tokens?, Encoding.Cursor.cutTokens types = .ok tokens?
  spread : ∀ tokens, Encoding.Cursor.cutTokens types = .ok (some tokens) →
    Token.Spread tokens types.toList
  counted : ∀ index : UInt32, ∃ count type? b₁ b₂, EStateM.run (argumentWord m) b = .ok count b₁ ∧
    EStateM.run (argumentType m index.toNat) b = .ok type? b₂ ∧ (type?.isSome = true ↔ index < count)
  truncated : Encoding.Cursor.cutTokens types = .ok none → ∀ index : UInt32, ∃ b₁ b₂,
    EStateM.run (argumentWord m) b = .ok 0 b₁ ∧
      EStateM.run (argumentType m index.toNat) b = .ok none b₂

section Introspectable

variable {b : Bridge} {m : MethodRef} {types : String} {tokens : List String}

/-- A word counts the arguments just if there are not more of them than it can hold. -/
lemma forall_lt_word_iff (n : Nat) :
    (∀ index : UInt32, index.toNat + 1 < n ↔ index < UInt32.ofNat (min (n - 1) 0xffffffff)) ↔
      n ≤ 0x100000000 := by
  have hword : (UInt32.ofNat (min (n - 1) 0xffffffff)).toNat = min (n - 1) 0xffffffff :=
    UInt32.toNat_ofNat_of_lt' (by simp only [UInt32.size]; omega)
  constructor
  · intro h
    have hlast := h 0xffffffff
    rw [UInt32.lt_iff_toNat_lt, hword] at hlast
    have hvalue : (0xffffffff : UInt32).toNat = 0xffffffff := rfl
    omega
  · intro h index
    have hlt : index.toNat < 0x100000000 := index.toNat_lt
    rw [UInt32.lt_iff_toNat_lt, hword]
    omega

lemma introspectable_of_cut (hm : (b.space.classes.method? m).map Method.types = some types)
    (hcut : Token.cut types = .ok tokens) :
    Introspectable types m b ↔ tokens.length ≤ 0x100000000 := by
  have hplace : Encoding.Cursor.cutTokens types = .ok (some tokens) := by
    rw [Encoding.Cursor.cutTokens_eq, hcut]
    rfl
  have htokens : EStateM.run (typeTokens m) b = .ok tokens b := by rw [run_typeTokens hm, hcut]
  have hcount := run_argumentWord htokens
  rw [← forall_lt_word_iff]
  constructor
  · intro h index
    obtain ⟨count, type?, b₁, b₂, hcount', htype, hiff⟩ := h.counted index
    obtain ⟨b₃, htype'⟩ := exists_run_argumentType htokens index
    rw [hcount] at hcount'
    rw [htype'] at htype
    cases hcount'
    cases htype
    rw [← hiff]
    simp
  · intro h
    refine ⟨⟨_, hplace⟩, fun tokens' hplace' => ?_, fun index => ?_, fun htruncated => ?_⟩
    · rw [hplace] at hplace'
      cases hplace'
      exact (Token.cut_eq_ok_iff.mp hcut).spread rfl
    · obtain ⟨b₂, htype⟩ := exists_run_argumentType htokens index
      refine ⟨_, _, b, b₂, hcount, htype, ?_⟩
      rw [← h index]
      simp
    · rw [hplace] at htruncated
      cases htruncated

lemma introspectable_of_truncated (hm : (b.space.classes.method? m).map Method.types = some types)
    (hcut : Token.cut types = .error .truncated) : Introspectable types m b := by
  have hplace : Encoding.Cursor.cutTokens types = .ok none := by
    rw [Encoding.Cursor.cutTokens_eq, hcut]
    rfl
  have htokens : EStateM.run (typeTokens m) b = .ok [] b := by rw [run_typeTokens hm, hcut]
  have hcount : EStateM.run (argumentWord m) b = .ok 0 b := run_argumentWord htokens
  refine ⟨⟨_, hplace⟩, fun tokens hplace' => ?_, fun index => ?_, fun _ index => ?_⟩
  · rw [hplace] at hplace'
    cases hplace'
  · obtain ⟨b₂, htype⟩ := exists_run_argumentType htokens index
    refine ⟨0, _, b, b₂, hcount, htype, ?_⟩
    simp
  · obtain ⟨b₂, htype⟩ := exists_run_argumentType htokens index
    exact ⟨b, b₂, hcount, htype⟩

end Introspectable

/-- **Introspection**: after a method was added with a text as its type string, this can be cut and
asked for argument types, in every state in which the method still has it, just if no character of
several bytes stands for a type in it, and if it is laid out in tokens, those of the arguments can be
counted in 32 bits. -/
theorem introspectable_iff {b b' : Bridge} {c : ClassId} {sel : Selector} {imp : Implementation}
    {types : String} {space : ObjectSpace} (hc : b.space.classes.Has c)
    (hadd : b.space.addMethod (some c) (some sel) (some imp) types = (true, space))
    (hkept : (b'.space.classes.method? ⟨c, sel⟩).map Method.types =
      (space.classes.method? ⟨c, sel⟩).map Method.types) :
    Introspectable types ⟨c, sel⟩ b' ↔
      ¬ Token.Straddles types ∧
        ∀ tokens, Token.Laid types.toList tokens [] → tokens.length ≤ 0x100000000 := by
  have hm : (b'.space.classes.method? ⟨c, sel⟩).map Method.types = some types := by
    rw [hkept]
    simp only [ObjectSpace.addMethod] at hadd
    split at hadd
    · next classes hclasses =>
      cases hadd
      exact ClassTable.types_of_added hc hclasses
    · cases hadd
  cases hcut : Token.cut types with
  | ok tokens =>
    rw [introspectable_of_cut hm hcut]
    have hwhole : ¬ Token.Straddles types := fun h => by
      rw [h.cut_eq] at hcut
      cases hcut
    constructor
    · intro hlen
      refine ⟨hwhole, fun tokens' hlaid => ?_⟩
      rw [hlaid.cut_eq] at hcut
      cases hcut
      exact hlen
    · rintro ⟨-, hlen⟩
      exact hlen tokens (Token.cut_eq_ok_iff.mp hcut)
  | error e =>
    have hnone (tokens : List String) : ¬ Token.Laid types.toList tokens [] := fun h => by
      rw [h.cut_eq] at hcut
      cases hcut
    cases e with
    | truncated =>
      have hwhole : ¬ Token.Straddles types := fun h => by
        rw [h.cut_eq] at hcut
        cases hcut
      exact iff_of_true (introspectable_of_truncated hm hcut)
        ⟨hwhole, fun tokens hlaid => absurd hlaid (hnone tokens)⟩
    | insideCharacter =>
      refine iff_of_false (fun h => ?_) fun h => h.1 (Token.cut_eq_insideCharacter_iff.mp hcut)
      obtain ⟨tokens?, hplace⟩ := h.returns
      rw [Encoding.Cursor.cutTokens_eq, hcut] at hplace
      cases hplace

/-- The method `name` of the class of all objects. -/
def nameMethod : MethodRef := ⟨⟨1⟩, ⟨17⟩⟩

/-- A type string whose struct and whose field have names of several bytes is cut into four tokens, and
can be asked for. -/
theorem introspectable_iff_accented :
    ∃ space, ({} : Bridge).space.addMethod (some ⟨1⟩) (some ⟨17⟩) (some (.constant 7))
        "v24@0:8\x7bé=\"ü\"d\x7d16" = (true, space) ∧
      Introspectable "v24@0:8\x7bé=\"ü\"d\x7d16" nameMethod { space } := by
  have hcut : Token.cut "v24@0:8\x7bé=\"ü\"d\x7d16" =
      .ok ["v", "@", ":", "\x7bé=\"ü\"d\x7d"] := by
    decide +kernel
  have hadd : (({} : Bridge).space.addMethod (some ⟨1⟩) (some ⟨17⟩) (some (.constant 7))
      "v24@0:8\x7bé=\"ü\"d\x7d16").1 = true := by
    decide +kernel
  have hclass : ({} : Bridge).space.classes.Has ⟨1⟩ := by decide +kernel
  refine ⟨_, Prod.ext hadd rfl, (introspectable_iff hclass (Prod.ext hadd rfl) rfl).mpr ⟨?_, ?_⟩⟩
  · intro hstraddles
    rw [hstraddles.cut_eq] at hcut
    cases hcut
  · intro tokens hlaid
    rw [hlaid.cut_eq] at hcut
    cases hcut
    decide

/-- **A character of several bytes for a type** tears the type string apart: the method is added, but to
cut its type string is a slip, and to count its arguments is a fault. -/
theorem not_introspectable_torn :
    ∃ space, ({} : Bridge).space.addMethod (some ⟨1⟩) (some ⟨17⟩) (some (.constant 7)) "v@:é" =
        (true, space) ∧
      Encoding.Cursor.cutTokens "v@:é" = .error .insideCharacter ∧
      EStateM.run (argumentWord nameMethod) { space } = .error (.fault .insideCharacter) { space } ∧
      ¬ Introspectable "v@:é" nameMethod { space } := by
  have hslip : Encoding.Cursor.cutTokens "v@:é" = .error .insideCharacter := by decide +kernel
  have hadd : (({} : Bridge).space.addMethod (some ⟨1⟩) (some ⟨17⟩) (some (.constant 7))
      "v@:é").1 = true := by
    decide +kernel
  have htorn : Token.Straddles "v@:é" := Token.cut_eq_insideCharacter_iff.mp (by decide +kernel)
  have htypes : ((({} : Bridge).space.addMethod (some ⟨1⟩) (some ⟨17⟩) (some (.constant 7))
      "v@:é").2.classes.method? nameMethod).map Method.types = some "v@:é" := by
    decide +kernel
  refine ⟨_, Prod.ext hadd rfl, hslip, ?_, fun h => ?_⟩
  · exact run_argumentWord_of_straddles (b := { space := _ }) htypes htorn
  obtain ⟨tokens?, hplace⟩ := h.returns
  rw [hslip] at hplace
  cases hplace

end Act

end MessageBridge
