import MessageBridge.Log.Logger
import MessageBridge.Proofs.Lists
import MessageBridge.Proofs.Text.Blank
import Mathlib.Data.List.Nodup

/-!
# Directive strings

A directive string is read piece by piece, and only when all of it has been read does the logger change.
Which of the directives holds for a target does not depend on where they stand: the longest of the texts
that the target starts with decides, and among directives for the same text the first.

## Main definitions

* `Log.Level.Named` — the texts that name a level.
* `Log.Denotes` — what a piece between commas means.
* `Log.Governs` — the directive that decides about a target.
* `Log.Holds` — the level that a list of settings means for a target.
* `Log.Logger.setDirectives` — takes over a directive string, step by step.

## Main results

* `Log.readSegment_eq_some_iff` — reading a piece finds what it means.
* `Log.Settings.parse_eq_ok_iff` — reading a string finds what its pieces mean.
* `Log.Logger.holds_levelFor` — a search among the directives finds the one that governs.
* `Log.Logger.setDirectives_spec` — what a directive string does to a logger.
-/

namespace MessageBridge.Log

/-! ## Words for levels -/

namespace Level

/-- The words for the levels. -/
def words : List (String × Level) :=
  [("error", .error), ("warn", .warn), ("warning", .warn), ("info", .info), ("debug", .debug),
    ("trace", .trace)]

/-- **Named**: the text is a word for the level between blanks, each letter in lower or upper case. -/
def Named (text : List Char) (level : Level) : Prop :=
  ∃ core word, Text.Trimmed text core ∧ (word, level) ∈ words ∧
    List.Forall₂ (fun c d => c = d ∨ c = d.toUpper) core word.toList

/-- A small letter is what it is in lower case, and so is its capital. -/
lemma toLower_eq_iff {c d : Char} (hd : 97 ≤ d.val.toNat ∧ d.val.toNat ≤ 122) :
    c.toLower = d ↔ c = d ∨ c = d.toUpper := by
  obtain ⟨hlo, hhi⟩ := hd
  have hupper : d.toUpper.val.toNat = d.val.toNat - 32 := by
    delta Char.toUpper
    rw [dif_pos]
    · simp only [Char.reduceVal, UInt32.toNat_add, UInt32.reduceSub, UInt32.reduceToNat]
      omega
    · simp only [UInt32.le_iff_toNat_le, Char.reduceVal, UInt32.reduceToNat]
      omega
  have hlower : c.toLower.val.toNat =
      if 65 ≤ c.val.toNat ∧ c.val.toNat ≤ 90 then c.val.toNat + 32 else c.val.toNat := by
    delta Char.toLower
    simp only [ge_iff_le, UInt32.le_iff_toNat_le, Char.reduceVal, UInt32.reduceToNat,
      UInt32.reduceSub]
    split
    · simp only [UInt32.toNat_add, UInt32.reduceToNat]
      omega
    · rfl
  simp only [Char.ext_iff, ← UInt32.toNat_inj, hlower, hupper]
  split <;> omega

lemma map_toLower_eq_iff {core word : List Char}
    (hword : ∀ d ∈ word, 97 ≤ d.val.toNat ∧ d.val.toNat ≤ 122) :
    core.map Char.toLower = word ↔ List.Forall₂ (fun c d => c = d ∨ c = d.toUpper) core word := by
  induction core generalizing word with
  | nil => cases word <;> simp
  | cons c core ih =>
    cases word with
    | nil => simp
    | cons d word =>
      obtain ⟨hd, hword⟩ := List.forall_mem_cons.mp hword
      rw [List.map_cons, List.cons.injEq, List.forall₂_cons, toLower_eq_iff hd, ih hword]

/-- All words are written in small letters. -/
lemma small_of_mem_words :
    ∀ x ∈ words, ∀ d ∈ x.1.toList, 97 ≤ d.val.toNat ∧ d.val.toNat ≤ 122 := by
  simp [words]

lemma parse_eq_ok_iff_mem {text : String} {level : Level} :
    parse text = .ok level ↔ (Text.lower (Text.trim text), level) ∈ words := by
  unfold parse
  generalize Text.lower (Text.trim text) = word
  split <;> simp_all [words, @eq_comm _ _ level]

/-- **Reading a word** finds the level that it names. -/
lemma parse_eq_ok_iff {text : String} {level : Level} :
    parse text = .ok level ↔ Named text.toList level := by
  rw [parse_eq_ok_iff_mem]
  constructor
  · intro hmem
    refine ⟨_, _, Text.trimmed_trimList _, hmem, ?_⟩
    rw [← map_toLower_eq_iff (small_of_mem_words _ hmem)]
    simp [Text.lower, Text.trim]
  · rintro ⟨core, word, htrim, hmem, hspelt⟩
    have hlower := (map_toLower_eq_iff (small_of_mem_words _ hmem)).mpr hspelt
    have heq : Text.lower (Text.trim text) = word := by
      rw [Text.lower, Text.trim, htrim.trimList_eq, String.toList_ofList, hlower, String.ofList_toList]
    rwa [heq]

/-- The blanks at the ends of a text do not matter. -/
lemma named_congr {text text' : List Char} {level : Level}
    (h : Text.trimList text' = Text.trimList text) : Named text' level ↔ Named text level := by
  simp only [Named, ← Text.trimList_eq_iff, h]

end Level

/-! ## Pieces -/

variable {segment target : List Char} {x : Level ⊕ Directive}

/-- **Denotes**: what a piece between commas means. Without an equals sign it is a word for a level,
otherwise there is a target in front of the first one and a word for a level behind it. -/
inductive Denotes : List Char → Level ⊕ Directive → Prop
  | level {segment : List Char} {level : Level} (hno : '=' ∉ segment)
      (h : Level.Named segment level) : Denotes segment (.inl level)
  | directive {target word name : List Char} {level : Level} (hno : '=' ∉ target)
      (htarget : Text.Trimmed target name) (hne : name ≠ []) (h : Level.Named word level) :
      Denotes (target ++ '=' :: word) (.inr ⟨String.ofList name, level⟩)

lemma isBlank_equals : Text.isBlank '=' = false := by decide

lemma readSegment_of_blank (h : ∀ c ∈ segment, Text.isBlank c = true) :
    readSegment segment = .ok none := by
  simp only [readSegment, Text.trimList_eq_nil_iff.mpr h]
  rfl

/-- A piece without an equals sign. -/
lemma readSegment_of_not_mem (hno : '=' ∉ segment) (hne : Text.trimList segment ≠ []) :
    readSegment segment =
      (fun l => some (.inl l)) <$> Level.parse (String.ofList (Text.trimList segment)) := by
  have hdrop : (Text.trimList segment).dropWhile (· != '=') = [] := by
    refine List.dropWhile_eq_nil_iff.mpr fun c hc => ?_
    obtain ⟨⟨before, behind, heq, -, -⟩, -⟩ := Text.trimmed_trimList segment
    have hmem : c ∈ segment := by
      rw [heq]
      simp [hc]
    simpa using ne_of_mem_of_not_mem hmem hno
  simp only [readSegment, List.isEmpty_iff, if_neg hne, hdrop]
  cases Level.parse (String.ofList (Text.trimList segment)) <;> rfl

/-- A piece with an equals sign. -/
lemma readSegment_append (hno : '=' ∉ target) (word : List Char) :
    ∃ e, readSegment (target ++ '=' :: word) =
      if Text.trimList target = [] then .error e
      else (fun l => some (.inr ⟨String.ofList (Text.trimList target), l⟩)) <$>
        Level.parse (String.ofList (word.rdropWhile Text.isBlank)) := by
  have hno' : ∀ c ∈ target.dropWhile Text.isBlank, (c != '=') = true := fun c hc => by
    simpa using ne_of_mem_of_not_mem ((List.dropWhile_sublist _).subset hc) hno
  have hdrop : (target.dropWhile Text.isBlank ++ '=' :: word.rdropWhile Text.isBlank).dropWhile
      (· != '=') = '=' :: word.rdropWhile Text.isBlank := by
    rw [List.dropWhile_append_of_pos hno', List.dropWhile_cons_of_neg (by simp)]
  have htake : (target.dropWhile Text.isBlank ++ '=' :: word.rdropWhile Text.isBlank).takeWhile
      (· != '=') = target.dropWhile Text.isBlank := by
    rw [List.takeWhile_append_of_pos hno', List.takeWhile_cons_of_neg (by simp), List.append_nil]
  refine ⟨.missingTarget (String.ofList (Text.trimList (target ++ '=' :: word))), ?_⟩
  simp only [readSegment, Text.trimList_append_cons isBlank_equals, hdrop, htake,
    Text.trimList_dropWhile, List.isEmpty_iff, List.append_eq_nil_iff, reduceCtorEq, and_false,
    if_false]
  split
  · rfl
  · cases Level.parse (String.ofList (word.rdropWhile Text.isBlank)) <;> rfl

/-- What is named is not blank. -/
lemma Level.Named.trimList_ne_nil {text : List Char} {level : Level} (h : Named text level) :
    Text.trimList text ≠ [] := by
  obtain ⟨core, word, htrim, hmem, hspelt⟩ := h
  rw [htrim.trimList_eq]
  rintro rfl
  have hword : ∀ x ∈ words, x.1.toList ≠ [] := by decide +kernel
  exact hword _ hmem (List.forall₂_nil_left_iff.mp hspelt)

lemma map_eq_ok_iff {ε α β : Type} {f : α → β} {p : Except ε α} {b : β} :
    f <$> p = .ok b ↔ ∃ a, p = .ok a ∧ f a = b := by
  cases p <;> simp [Functor.map, Except.map]

/-- **Reading a piece** finds what it means. -/
theorem readSegment_eq_some_iff : readSegment segment = .ok (some x) ↔ Denotes segment x := by
  constructor
  · intro h
    by_cases hmem : '=' ∈ segment
    · obtain ⟨target, word, rfl, hno⟩ := List.eq_append_cons_of_mem hmem
      obtain ⟨e, heq⟩ := readSegment_append hno word
      rw [heq] at h
      split at h
      · cases h
      · next hne =>
        obtain ⟨l, hparse, hl⟩ := map_eq_ok_iff.mp h
        cases hl
        rw [Level.parse_eq_ok_iff, String.toList_ofList,
          Level.named_congr (Text.trimList_rdropWhile word)] at hparse
        exact .directive hno (Text.trimmed_trimList target) hne hparse
    · by_cases hblank : Text.trimList segment = []
      · rw [readSegment_of_blank (Text.trimList_eq_nil_iff.mp hblank)] at h
        cases h
      · rw [readSegment_of_not_mem hmem hblank] at h
        obtain ⟨l, hparse, hl⟩ := map_eq_ok_iff.mp h
        cases hl
        rw [Level.parse_eq_ok_iff, String.toList_ofList,
          Level.named_congr (Text.trimList_trimList segment)] at hparse
        exact .level hmem hparse
  · rintro (⟨hno, hlevel⟩ | ⟨hno, htarget, hne, hlevel⟩)
    · rw [readSegment_of_not_mem hno hlevel.trimList_ne_nil, map_eq_ok_iff]
      refine ⟨_, Level.parse_eq_ok_iff.mpr ?_, rfl⟩
      rwa [String.toList_ofList, Level.named_congr (Text.trimList_trimList _)]
    · obtain ⟨e, heq⟩ := readSegment_append hno _
      rw [heq, htarget.trimList_eq, if_neg hne, map_eq_ok_iff]
      refine ⟨_, Level.parse_eq_ok_iff.mpr ?_, rfl⟩
      rwa [String.toList_ofList, Level.named_congr (Text.trimList_rdropWhile _)]

/-- Only blanks mean nothing. -/
lemma readSegment_eq_none_iff :
    readSegment segment = .ok none ↔ ∀ c ∈ segment, Text.isBlank c = true := by
  refine ⟨fun h => ?_, readSegment_of_blank⟩
  rw [← Text.trimList_eq_nil_iff]
  by_contra hblank
  by_cases hmem : '=' ∈ segment
  · obtain ⟨target, word, rfl, hno⟩ := List.eq_append_cons_of_mem hmem
    obtain ⟨e, heq⟩ := readSegment_append hno word
    rw [heq] at h
    split at h
    · cases h
    · obtain ⟨l, -, hl⟩ := map_eq_ok_iff.mp h
      cases hl
  · rw [readSegment_of_not_mem hmem hblank] at h
    obtain ⟨l, -, hl⟩ := map_eq_ok_iff.mp h
    cases hl

/-! ## Strings -/

/-- The pieces of a directive string between its commas, without those that are blank. -/
def pieces (spec : String) : List (List Char) :=
  (spec.toList.splitOn ',').filter fun piece => !piece.all Text.isBlank

/-- The bare levels among what the pieces mean. -/
def levels (xs : List (Level ⊕ Directive)) : List Level := xs.filterMap Sum.getLeft?

/-- The directives among what the pieces mean. -/
def directives (xs : List (Level ⊕ Directive)) : List Directive := xs.filterMap Sum.getRight?

lemma segments_eq_splitOn (s : List Char) : segments s = s.splitOn ',' := by
  induction s with
  | nil => rfl
  | cons c s ih =>
    rw [segments, ih, List.splitOn, List.splitOn, List.splitOnP_cons_eq_if_modifyHead]
    by_cases hc : c = ','
    · simp [hc]
    · rw [if_neg hc, if_neg (by simpa using hc)]
      cases hsplit : s.splitOnP (· == ',') with
      | nil => exact absurd hsplit (List.splitOnP_ne_nil _ _)
      | cons => rfl

namespace Settings

lemma add_some (s : Settings) (x : Level ⊕ Directive) (xs : List (Level ⊕ Directive)) :
    (⟨(levels xs).getLast?.or (s.add (some x)).level?, (s.add (some x)).overrides ++ directives xs⟩ :
      Settings) = ⟨(levels (x :: xs)).getLast?.or s.level?, s.overrides ++ directives (x :: xs)⟩ := by
  cases x with
  | inl l =>
    have hcons : levels (.inl l :: xs) = l :: levels xs := rfl
    have hsame : directives (.inl l :: xs) = directives xs := rfl
    rw [hcons, hsame, List.getLast?_cons]
    cases h : (levels xs).getLast? <;> simp [add]
  | inr d =>
    have hsame : levels (.inr d :: xs) = levels xs := rfl
    have hcons : directives (.inr d :: xs) = d :: directives xs := rfl
    rw [hsame, hcons]
    simp [add]

/-- Reading pieces adds what they mean to what was read so far. -/
lemma foldlM_eq_ok_iff {segs : List (List Char)} {s s' : Settings} :
    segs.foldlM (fun s segment => s.add <$> readSegment segment) s = .ok s' ↔
      ∃ xs, List.Forall₂ Denotes (segs.filter fun piece => !piece.all Text.isBlank) xs ∧
        s' = ⟨(levels xs).getLast?.or s.level?, s.overrides ++ directives xs⟩ := by
  induction segs generalizing s with
  | nil =>
    rw [List.foldlM_nil, List.filter_nil]
    constructor
    · intro h
      cases h
      exact ⟨[], .nil, by simp [levels, directives]⟩
    · rintro ⟨xs, hxs, rfl⟩
      cases hxs
      simp [levels, directives, pure, Except.pure]
  | cons piece segs ih =>
    rw [List.foldlM_cons, List.filter_cons]
    by_cases hblank : ∀ c ∈ piece, Text.isBlank c = true
    · rw [readSegment_of_blank hblank, if_neg (by simpa using hblank)]
      exact ih
    · rw [if_pos (by simpa using hblank)]
      cases hread : readSegment piece with
      | error e =>
        refine iff_of_false nofun ?_
        rintro ⟨xs, hxs, -⟩
        cases hxs with
        | cons hx => cases hread.symm.trans (readSegment_eq_some_iff.mpr hx)
      | ok o =>
        cases o with
        | none => exact absurd (readSegment_eq_none_iff.mp hread) hblank
        | some x =>
          have hx := readSegment_eq_some_iff.mp hread
          change segs.foldlM _ (s.add (some x)) = _ ↔ _
          rw [ih]
          constructor
          · rintro ⟨xs, hxs, rfl⟩
            exact ⟨x :: xs, .cons hx hxs, add_some s x xs⟩
          · rintro ⟨ys, hys, rfl⟩
            cases hys with
            | @cons _ y _ xs hy hxs =>
              cases hread.symm.trans (readSegment_eq_some_iff.mpr hy)
              exact ⟨xs, hxs, (add_some s x xs).symm⟩

/-- **Reading a string** finds what its pieces mean: the last of the bare levels, and the directives in
their order. -/
theorem parse_eq_ok_iff {spec : String} {s : Settings} :
    parse spec = .ok s ↔
      ∃ xs, List.Forall₂ Denotes (pieces spec) xs ∧ s = ⟨(levels xs).getLast?, directives xs⟩ := by
  rw [parse, segments_eq_splitOn, foldlM_eq_ok_iff, pieces]
  simp only [Option.or_none, List.nil_append]

end Settings

/-! ## Which directive governs -/

variable {ds ds' : List Directive} {d e : Directive} {t : String}

/-- **Governs**: of the directives whose text the target starts with, the one with the longest text, and
among directives for one text the first. -/
structure Governs (ds : List Directive) (t : String) (d : Directive) : Prop where
  starts : d.target.toList <+: t.toList
  longest : ∀ e ∈ ds, e.target.toList <+: t.toList → e.target.length ≤ d.target.length
  first : ds.find? (fun e => e.target == d.target) = some d

/-- **Holds**: the level that settings mean for a target. It is that of the directive that governs, or
else the last bare level, or else the level so far. -/
inductive Holds (level : Level) (xs : List (Level ⊕ Directive)) (t : String) : Level → Prop
  | directive {d : Directive} (h : Governs (directives xs) t d) : Holds level xs t d.level
  | default (h : ∀ d ∈ directives xs, ¬ d.target.toList <+: t.toList) :
      Holds level xs t ((levels xs).getLast?.getD level)

namespace Governs

lemma mem (h : Governs ds t d) : d ∈ ds := List.mem_of_find?_eq_some h.first

/-- Of two texts of one length that a target starts with there is only one. -/
lemma target_eq (h : Governs ds t d) (h' : Governs ds' t e) (hd : d ∈ ds') (he : e ∈ ds) :
    d.target = e.target := by
  have hlen : d.target.toList.length = e.target.toList.length := by
    rw [String.length_toList, String.length_toList]
    exact Nat.le_antisymm (h'.longest d hd h.starts) (h.longest e he h'.starts)
  exact String.toList_inj.mp
    ((List.prefix_of_prefix_length_le h.starts h'.starts hlen.le).eq_of_length hlen)

/-- One directive governs. -/
lemma unique (h : Governs ds t d) (h' : Governs ds t e) : d = e := by
  have hfirst := h'.first
  rw [← h.target_eq h' h.mem h'.mem, h.first] at hfirst
  exact Option.some.inj hfirst

/-- Among directives with texts of their own it does not matter where the governing one stands. -/
lemma perm (h : Governs ds t d) (hperm : ds'.Perm ds) (hnodup : (ds.map Directive.target).Nodup) :
    Governs ds' t d where
  starts := h.starts
  longest e he := h.longest e (hperm.subset he)
  first := by
    cases hfind : ds'.find? (fun e => e.target == d.target) with
    | none =>
      have hnone := List.find?_eq_none.mp hfind d (hperm.symm.subset h.mem)
      simp at hnone
    | some e =>
      have htarget : e.target = d.target := by simpa using List.find?_some hfind
      have he : e ∈ ds := hperm.subset (List.mem_of_find?_eq_some hfind)
      rw [List.inj_on_of_nodup_map hnodup he h.mem htarget]

end Governs

/-- One level holds. -/
lemma Holds.unique {level l l' : Level} {xs : List (Level ⊕ Directive)} (h : Holds level xs t l)
    (h' : Holds level xs t l') : l = l' := by
  cases h with
  | directive h =>
    cases h' with
    | directive h' => rw [h.unique h']
    | default h' => exact absurd h.starts (h' _ h.mem)
  | default h =>
    cases h' with
    | directive h' => exact absurd h'.starts (h _ h'.mem)
    | default => rfl

/-- The order of directives with texts of their own does not matter. -/
lemma Holds.perm {level l : Level} {xs xs' : List (Level ⊕ Directive)} (h : Holds level xs t l)
    (hperm : (directives xs').Perm (directives xs))
    (hnodup : ((directives xs).map Directive.target).Nodup)
    (hlevels : (levels xs').getLast? = (levels xs).getLast?) : Holds level xs' t l := by
  cases h with
  | directive h => exact .directive (h.perm hperm hnodup)
  | default h =>
    rw [← hlevels]
    exact .default fun d hd => h d (hperm.subset hd)

/-! ## Searching -/

namespace Logger

/-- Whether the first directive comes before the second, or may do so: its text is not shorter. -/
private abbrev notShorter (a b : Directive) : Bool :=
  decide (b.target.utf8ByteSize ≤ a.target.utf8ByteSize)

private lemma notShorter_trans (a b c : Directive) (h : notShorter a b = true)
    (h' : notShorter b c = true) : notShorter a c = true := by
  simp only [notShorter, decide_eq_true_eq] at *
  omega

private lemma notShorter_total (a b : Directive) : (notShorter a b || notShorter b a) = true := by
  simp only [notShorter, Bool.or_eq_true, decide_eq_true_eq]
  omega

/-- Of two texts that a target starts with the one with fewer bytes has fewer characters. -/
lemma length_le_of_utf8ByteSize_le {a b : String} (ha : a.toList <+: t.toList)
    (hb : b.toList <+: t.toList) (h : a.utf8ByteSize ≤ b.utf8ByteSize) : a.length ≤ b.length := by
  by_contra hlt
  rw [not_le, ← String.length_toList, ← String.length_toList] at hlt
  obtain ⟨rest, hrest⟩ := List.prefix_of_prefix_length_le hb ha hlt.le
  have heq : a = b ++ String.ofList rest := by
    rw [← String.toList_inj, String.toList_append, String.toList_ofList, hrest]
  rw [heq, String.utf8ByteSize_append] at h
  have hempty : String.ofList rest = "" := String.utf8ByteSize_eq_zero_iff.mp (by omega)
  rw [heq, hempty, String.append_empty] at hlt
  exact lt_irrefl _ hlt

/-- Sorting keeps the order of directives for one text. -/
lemma filter_sortOverrides (ds : List Directive) (text : String) :
    (sortOverrides ds).filter (fun e => e.target == text) = ds.filter (fun e => e.target == text) := by
  refine filter_mergeSort notShorter_trans notShorter_total (fun a b ha hb => ?_) ds
  simp only [beq_iff_eq] at ha hb
  simp [notShorter, ha, hb]

/-- **A search finds the directive that governs.** -/
theorem governs_of_find? (h : (sortOverrides ds).find? (fun e => e.target.toList.isPrefixOf t.toList) =
    some d) : Governs ds t d := by
  obtain ⟨hd, before, behind, hsplit, hbefore⟩ := List.find?_eq_some_iff_append.mp h
  have hstarts : d.target.toList <+: t.toList := List.isPrefixOf_iff_prefix.mp hd
  have hbefore' : ∀ e ∈ before, ¬ e.target.toList <+: t.toList := fun e he hprefix => by
    have hnot := hbefore e he
    rw [List.isPrefixOf_iff_prefix.mpr hprefix] at hnot
    cases hnot
  refine ⟨hstarts, fun e he hprefix => ?_, ?_⟩
  · have hmem : e ∈ before ++ d :: behind := hsplit ▸ (List.mergeSort_perm ds _).symm.subset he
    have hpair : (before ++ d :: behind).Pairwise (fun a b => notShorter a b = true) :=
      hsplit ▸ List.pairwise_mergeSort notShorter_trans notShorter_total ds
    rcases List.mem_append.mp hmem with hmem | hmem
    · exact absurd hprefix (hbefore' e hmem)
    · rcases List.mem_cons.mp hmem with rfl | hmem
      · exact le_rfl
      · have hle := (List.pairwise_cons.mp (List.pairwise_append.mp hpair).2.1).1 e hmem
        exact length_le_of_utf8ByteSize_le hprefix hstarts (of_decide_eq_true hle)
  · rw [← List.head?_filter, ← filter_sortOverrides, List.head?_filter, List.find?_eq_some_iff_append]
    refine ⟨by simp, before, behind, hsplit, fun e he => ?_⟩
    have hne : e.target ≠ d.target := by
      intro heq
      exact hbefore' e he (heq ▸ hstarts)
    simpa using hne

/-- **The level for a target** is the one that holds. -/
theorem holds_levelFor (l : Logger) (xs : List (Level ⊕ Directive)) (t : String) :
    Holds l.level xs t ((l.update ⟨(levels xs).getLast?, directives xs⟩).levelFor t) := by
  unfold levelFor
  split
  · next d hfind => exact .directive (governs_of_find? hfind)
  · next hfind =>
    refine .default fun d hd hprefix => ?_
    have hnot := List.find?_eq_none.mp hfind d ((List.mergeSort_perm _ _).symm.subset hd)
    rw [List.isPrefixOf_iff_prefix] at hnot
    exact hnot hprefix

/-! ## Setting directives -/

/-- Takes over a directive string, step by step: the string is read, then the default level is set if
there is one, then the directives are. -/
def setDirectives (spec : String) : EStateM Refusal Logger Unit := do
  match Settings.parse spec with
  | .error e => throw e
  | .ok s =>
    if let some level := s.level? then
      modify fun l => { l with level }
    modify fun l => l.setOverrides s.overrides

/-- The steps do what is done at once. -/
lemma run_setDirectives (l : Logger) (spec : String) :
    (setDirectives spec).run l =
      match l.apply spec with
      | .ok l' => .ok () l'
      | .error e => .error e l := by
  unfold setDirectives apply
  cases Settings.parse spec with
  | error e => rfl
  | ok s =>
    obtain ⟨level?, overrides⟩ := s
    cases level? <;> rfl

/-- A string whose pieces all mean something is taken over. -/
lemma run_setDirectives_eq_ok_iff {l l' : Logger} {spec : String} :
    (setDirectives spec).run l = .ok () l' ↔
      ∃ xs, List.Forall₂ Denotes (pieces spec) xs ∧
        l.update ⟨(levels xs).getLast?, directives xs⟩ = l' := by
  rw [run_setDirectives, apply]
  constructor
  · intro h
    cases hparse : Settings.parse spec with
    | error e =>
      rw [hparse] at h
      cases h
    | ok s =>
      rw [hparse] at h
      obtain ⟨xs, hxs, rfl⟩ := Settings.parse_eq_ok_iff.mp hparse
      cases h
      exact ⟨xs, hxs, rfl⟩
  · rintro ⟨xs, hxs, rfl⟩
    rw [Settings.parse_eq_ok_iff.mpr ⟨xs, hxs, rfl⟩]
    rfl

/-- **Directive strings**: a string is refused if and only if one of its pieces means nothing, and the
logger stays as it was then; otherwise the level that the pieces mean holds for every target. Strings
whose pieces mean the same directives in another order, no two of them for one text, and the same bare
level at last do the same for every target. -/
theorem setDirectives_spec (l : Logger) (spec : String) :
    ((∃ e l', (setDirectives spec).run l = .error e l') ↔
      ∃ piece ∈ pieces spec, ∀ x, ¬ Denotes piece x) ∧
    (∀ e l', (setDirectives spec).run l = .error e l' → l' = l) ∧
    (∀ l', (setDirectives spec).run l = .ok () l' →
      ∃ xs, List.Forall₂ Denotes (pieces spec) xs ∧ ∀ t, Holds l.level xs t (l'.levelFor t)) ∧
    ∀ spec' xs xs', List.Forall₂ Denotes (pieces spec) xs → List.Forall₂ Denotes (pieces spec') xs' →
      (directives xs').Perm (directives xs) → ((directives xs).map Directive.target).Nodup →
      (levels xs').getLast? = (levels xs).getLast? →
      ∃ l₁ l₂, (setDirectives spec).run l = .ok () l₁ ∧ (setDirectives spec').run l = .ok () l₂ ∧
        ∀ t, l₂.levelFor t = l₁.levelFor t := by
  refine ⟨?_, fun e l' h => ?_, fun l' h => ?_, fun spec' xs xs' hxs hxs' hperm hnodup hlevels => ?_⟩
  · calc (∃ e l', (setDirectives spec).run l = .error e l')
        ↔ ¬ ∃ l', (setDirectives spec).run l = .ok () l' := by
          cases (setDirectives spec).run l <;> simp
      _ ↔ ¬ ∃ xs, List.Forall₂ Denotes (pieces spec) xs := by
          simp only [run_setDirectives_eq_ok_iff]
          exact not_congr ⟨fun ⟨_, xs, hxs, _⟩ => ⟨xs, hxs⟩, fun ⟨xs, hxs⟩ => ⟨_, xs, hxs, rfl⟩⟩
      _ ↔ ∃ piece ∈ pieces spec, ∀ x, ¬ Denotes piece x := by
          rw [exists_forall₂_iff]
          push Not
          rfl
  · rw [run_setDirectives] at h
    split at h <;> cases h
    rfl
  · obtain ⟨xs, hxs, rfl⟩ := run_setDirectives_eq_ok_iff.mp h
    exact ⟨xs, hxs, holds_levelFor l xs⟩
  · refine ⟨_, _, run_setDirectives_eq_ok_iff.mpr ⟨xs, hxs, rfl⟩,
      run_setDirectives_eq_ok_iff.mpr ⟨xs', hxs', rfl⟩, fun t => ?_⟩
    exact (holds_levelFor l xs' t).unique ((holds_levelFor l xs t).perm hperm hnodup hlevels)

/-- A bare level and two directives, with blanks and an empty piece among them. -/
def mixedSpec : String := " Info,bridge=debug ,, bridge::dispatch = TRACE"

/-- The longer of the two texts that a target starts with decides. -/
theorem setDirectives_spec_mixed :
    ∃ l', (setDirectives mixedSpec).run {} = .ok () l' ∧
      l'.levelFor "bridge::dispatch::send" = .trace := by
  have hparse : Settings.parse mixedSpec =
      .ok ⟨some .info, [⟨"bridge", .debug⟩, ⟨"bridge::dispatch", .trace⟩]⟩ := by rfl
  have hrun : ∃ l', (setDirectives mixedSpec).run {} = .ok () l' := by
    rw [run_setDirectives, apply, hparse]
    exact ⟨_, rfl⟩
  obtain ⟨l', hrun⟩ := hrun
  obtain ⟨xs, hxs, hholds⟩ := (setDirectives_spec {} mixedSpec).2.2.1 l' hrun
  have hmeant := hparse.symm.trans (Settings.parse_eq_ok_iff.mpr ⟨xs, hxs, rfl⟩)
  simp only [Except.ok.injEq, Settings.mk.injEq] at hmeant
  have hgoverns : Governs (directives xs) "bridge::dispatch::send" ⟨"bridge::dispatch", .trace⟩ := by
    rw [← hmeant.2]
    exact ⟨by decide +kernel, by decide +kernel, by decide +kernel⟩
  exact ⟨l', hrun, (hholds _).unique (.directive hgoverns)⟩

end Logger

end MessageBridge.Log
