import MessageBridge.Proofs.Encoding.InPlace
import MessageBridge.Proofs.Encoding.Outline

/-!
# Reading in place is reading

Each reader in place follows its reader of characters, from the smallest to the whole text. So what is
read in place is what is read, the position is at the place of what is left, and no check ever fails:
the position stays in the text, pieces are cut out between characters, only open brackets are closed,
and no loop goes round more often than the text has bytes.

## Main results

* `Cursor.length_lt_of_readType` — a type that is read makes the rest shorter.
* `Cursor.follows_parseType` — one type is read in place as it is read.
* `Translator.read_in_place` — so are whole encodings and type strings, without a slip.
-/

namespace MessageBridge.Encoding.Cursor

/-! ## Parts of types -/

section Readers

variable {s : String} {c : Char} {v w : List Char}

/-- The text at the end is cut out as it is. -/
lemma textBetween_nil (v : List Char) : textBetween v [] = String.ofList v := by
  simp [textBetween]

/-- The text in front of what is skipped to is what was skipped. -/
lemma textBetween_dropWhile (p : Char → Bool) (v : List Char) :
    textBetween v (v.dropWhile p) = String.ofList (v.takeWhile p) := by
  nth_rewrite 1 [← List.takeWhile_append_dropWhile (p := p) (l := v)]
  exact textBetween_append _ _

lemma follows_checkPrefix (hv : v <:+ s.toList) :
    Follows s v (checkPrefix s) ((fun _ => ((), v)) <$> refuseUnsupported v) := by
  have hsuffix : skipQualifiers v <:+ s.toList := (List.dropWhile_suffix _).trans hv
  have hprobe : skip s isQualifier (place s v) = .ok (place s (skipQualifiers v)) :=
    skip_place coarse_isQualifier hv
  unfold checkPrefix refuseUnsupported
  refine .get (.checked hprobe ?_)
  cases hskip : skipQualifiers v with
  | nil =>
    rw [byte?_place_nil]
    exact follows_pure ()
  | cons c rest =>
    rw [hskip] at hsuffix
    rw [byte?_place_cons hsuffix]
    simp only [isUnsupported_leadByte]
    have hslice := slice_place List.nil_suffix hsuffix
    rw [place_nil, textBetween_nil] at hslice
    split
    · exact .checked hslice (follows_throw rfl)
    · exact follows_pure ()

/-- A text in quotes is read from the opening quote. -/
lemma follows_parseQuoted (hv : '"' :: v <:+ s.toList) :
    Follows s ('"' :: v) (parseQuoted s) (readQuoted ('"' :: v)) := by
  have htail : v <:+ s.toList := (List.suffix_cons _ v).trans hv
  have hnext : place s ('"' :: v) + 1 = place s v := place_succ hv rfl
  have hplace : min (place s ('"' :: v) + 1) s.utf8ByteSize = place s v := by
    rw [hnext]
    exact Nat.min_eq_left (place_le v)
  have hfind := find_place coarse_quote htail
  rw [show v.dropWhile (fun c => !(c == '"')) = v.dropWhile (· != '"') from rfl] at hfind
  have htext := textBetween_dropWhile (· != '"') v
  have hhead := List.head?_dropWhile_not (· != '"') v
  unfold parseQuoted readQuoted
  refine .get ?_
  rw [hplace, hnext]
  cases hdrop : v.dropWhile (· != '"') with
  | nil =>
    rw [hdrop] at hfind
    simp only [hdrop]
    exact .checked hfind (follows_complain _)
  | cons c rest =>
    rw [hdrop] at hfind htext
    simp only [hdrop]
    refine .checked hfind ?_
    obtain rfl : c = '"' := by simpa [hdrop] using hhead
    have hrest : '"' :: rest <:+ v := hdrop ▸ List.dropWhile_suffix _
    have hplace' : place s ('"' :: rest) + 1 = place s rest := place_succ (hrest.trans htail) rfl
    refine .checked (slice_place hrest htail) ?_
    rw [hplace', htext]
    have hback : rest <:+ '"' :: v :=
      ((List.suffix_cons _ rest).trans hrest).trans (List.suffix_cons _ v)
    exact .moveTo hback (follows_pure _)

/-- A field name is read in quotes. -/
lemma follows_parseFieldName (hv : v <:+ s.toList) :
    Follows s v (parseFieldName s) (readQuoted v) := by
  cases v with
  | nil => exact .peek_nil (follows_complain _)
  | cons c v =>
    refine .peek_cons hv ?_
    simp only [leadByte_eq_iff (c := c) (d := '"') rfl]
    by_cases hc : c = '"'
    · subst hc
      exact follows_parseQuoted hv
    · have hread : readQuoted (c :: v) = .error (.malformed .unquotedField (c :: v)) := by
        unfold readQuoted
        split
        · next heq => exact absurd (List.cons.inj heq).1 hc
        · rfl
      rw [if_neg hc, hread]
      exact follows_complain _

/-- What belongs to the sign of an object is read behind it. -/
lemma follows_parseObject (named : Bool) (hv : '@' :: v <:+ s.toList) :
    Follows s v (parseObject s named (place s ('@' :: v))) (readObject named ('@' :: v) v) := by
  have htail : v <:+ s.toList := (List.suffix_cons _ v).trans hv
  have hobject (w : List Char) : Descriptor.mk (textBetween ('@' :: w) w) (.object none) = .object := by
    rw [show '@' :: w = ['@'] ++ w from rfl, textBetween_append]
    rfl
  unfold parseObject
  cases v with
  | nil =>
    refine .peek_nil (.piece List.nil_suffix hv ?_)
    rw [hobject]
    exact follows_pure _
  | cons c v =>
    refine .peek_cons htail ?_
    simp only [leadByte_eq_iff (c := c) (d := '?') rfl, leadByte_eq_iff (c := c) (d := '"') rfl]
    unfold readObject
    by_cases hmark : c = '?'
    · subst hmark
      refine .advance htail rfl (.piece ?_ hv (follows_pure _))
      exact (List.suffix_cons _ v).trans (List.suffix_cons _ _)
    · simp only [hmark, if_false]
      split
      · next hquote =>
        obtain rfl : c = '"' := by
          simp only [Bool.and_eq_true, decide_eq_true_eq] at hquote
          exact hquote.1
        refine (follows_parseQuoted htail).bind fun text rest hrest _ => ?_
        exact .piece (hrest.trans (List.suffix_cons _ _)) hv (follows_pure _)
      · refine .piece (List.suffix_cons _ _) hv ?_
        rw [hobject]
        exact follows_pure _

/-! ### Pointers -/

/-- Qualifiers are no levels. -/
lemma skipLevels_dropWhile (levels : Nat) (v : List Char) :
    skipLevels levels v = skipLevels levels (v.dropWhile isQualifier) := by
  induction v with
  | nil => rfl
  | cons c v ih =>
    cases hc : isQualifier c with
    | true => rw [List.dropWhile_cons_of_pos hc, skipLevels, if_pos hc, ih]
    | false => rw [List.dropWhile_cons_of_neg (by simp [hc])]

/-- Pointer signs are passed and counted. -/
lemma follows_passLevels {n : Nat} (hv : v <:+ s.toList) (hn : v.length < n) (levels : Nat) :
    Follows s v (passLevels s n levels) (.ok (skipLevels levels v)) := by
  induction n generalizing v levels with
  | zero => exact absurd hn (Nat.not_lt_zero _)
  | succ n ih =>
    have hsuffix : v.dropWhile isQualifier <:+ s.toList := (List.dropWhile_suffix _).trans hv
    have hlen : (v.dropWhile isQualifier).length ≤ v.length := (List.dropWhile_suffix _).length_le
    have hhead := List.head?_dropWhile_not isQualifier v
    rw [skipLevels_dropWhile]
    unfold passLevels
    refine .skipWhile coarse_isQualifier hv ?_
    generalize v.dropWhile isQualifier = w at hsuffix hlen hhead
    cases w with
    | nil => exact .peek_nil (follows_pure _)
    | cons c w =>
      refine .peek_cons hsuffix ?_
      have hqualifier : isQualifier c = false := by simpa using hhead
      rw [skipLevels, if_neg (by simp [hqualifier])]
      by_cases hc : c = '^'
      · subst hc
        rw [List.length_cons] at hlen
        simp only [leadByte_eq_iff (c := '^') (d := '^') rfl, if_true]
        exact .advance hsuffix rfl (ih ((List.suffix_cons _ w).trans hsuffix) (by omega) _)
      · simp only [leadByte_eq_iff (c := c) (d := '^') rfl, if_neg hc]
        exact follows_pure _

/-- The struct behind a pointer is passed, and its name is found. -/
lemma follows_passStruct (hv : '\x7b' :: v <:+ s.toList) :
    Follows s ('\x7b' :: v) (passStruct s) (skipStruct ('\x7b' :: v)) := by
  have htail : v <:+ s.toList := (List.suffix_cons _ v).trans hv
  have hplace : place s ('\x7b' :: v) + 1 = place s v := place_succ hv rfl
  have hfind := find_place coarse_endsName htail
  have htext := textBetween_dropWhile (!endsName ·) v
  have hany : v.any endsName = !(v.dropWhile (!endsName ·)).isEmpty := by
    rw [Bool.eq_iff_iff]
    simp [List.dropWhile_eq_nil_iff]
  unfold passStruct skipStruct
  refine .get ?_
  rw [hplace]
  simp only [List.drop_succ_cons, List.drop_zero, hany]
  cases hdrop : v.dropWhile (!endsName ·) with
  | nil =>
    rw [hdrop] at hfind
    exact .checked hfind (follows_complain _)
  | cons c rest =>
    rw [hdrop] at hfind htext
    have hrest : c :: rest <:+ v := hdrop ▸ List.dropWhile_suffix _
    refine .checked hfind (.checked (slice_place hrest htail) ?_)
    rw [htext]
    exact .passGroup rfl rfl (by decide) hv fun _ _ => follows_pure _

/-- What a pointer points at is passed. -/
lemma follows_passPointee {parse : Walk Descriptor} {read : Reader Descriptor}
    (hv : v <:+ s.toList) (hread : Follows s v parse (read v)) :
    Follows s v (passPointee s parse) (skipPointee read v) := by
  unfold passPointee
  cases v with
  | nil => exact .peek_nil (follows_complain _)
  | cons c v =>
    have hlead {d : Char} (hd : d.utf8Size = 1) := leadByte_eq_iff (c := c) hd
    refine .peek_cons hv ?_
    simp only [hlead (d := '\x7b') rfl, hlead (d := '[') rfl, hlead (d := '(') rfl,
      hlead (d := 'b') rfl, hlead (d := 'D') rfl]
    rw [skipPointee]
    split_ifs with hstruct harray hunion hbits hdouble
    · subst hstruct
      exact (follows_passStruct hv).bind fun _ _ _ _ => follows_pure _
    · subst harray
      exact .passGroup rfl rfl (by decide) hv fun _ _ => follows_pure _
    · subst hunion
      exact .passGroup rfl rfl (by decide) hv fun _ _ => follows_pure _
    · subst hbits
      have htail : v <:+ s.toList := (List.suffix_cons _ v).trans hv
      exact .advance hv rfl (.skipWhile coarse_isOffset htail (follows_pure _))
    · subst hdouble
      exact .advance hv rfl (follows_pure _)
    · exact hread.bind fun _ _ _ _ => follows_pure _

/-! ### Structs -/

/-- The name of a field is read where fields have names. -/
lemma follows_parseLabel (named : Bool) (hv : v <:+ s.toList) :
    Follows s v (parseLabel s named)
      (if named then (fun q => (some q.1, q.2)) <$> readQuoted v else pure (none, v)) := by
  unfold parseLabel
  cases named with
  | true =>
    simp only [if_true, map_eq_pure_bind]
    exact (follows_parseFieldName hv).bind fun _ _ _ _ => follows_pure _
  | false => exact follows_pure _

/-- Fields are read one after another, each of which makes the rest shorter. -/
lemma follows_parseFields {parse : Walk Descriptor} {read : Reader Descriptor} {named : Bool}
    {n count : Nat} (hv : v <:+ s.toList)
    (hread : ∀ w, w <:+ v → Follows s w parse (read w))
    (hshort : ∀ w d rest, read w = .ok (d, rest) → rest.length < w.length)
    (hn : v.length < n) (hcount : v.length < count) :
    Follows s v (parseFields s parse named n) (readFields read named count v) := by
  induction n generalizing v count with
  | zero => exact absurd hn (Nat.not_lt_zero _)
  | succ n ih =>
    obtain ⟨count, rfl⟩ : ∃ k, count = k + 1 := ⟨count - 1, by omega⟩
    unfold parseFields
    cases v with
    | nil => exact .peek_nil (follows_complain _)
    | cons c v =>
      refine .peek_cons hv ?_
      by_cases hc : c = '\x7d'
      · subst hc
        simp only [leadByte_eq_iff (c := '\x7d') (d := '\x7d') rfl, if_true]
        exact .advance hv rfl (follows_pure _)
      · simp only [leadByte_eq_iff (c := c) (d := '\x7d') rfl, if_neg hc]
        rw [readFields_eq_bind hc]
        refine (follows_parseLabel named hv).bind fun name w hw _ => ?_
        refine (hread w hw).bind fun d rest hrest hd => ?_
        have hless := hshort w d rest hd
        have hle := hw.length_le
        have hback := hrest.trans hw
        by_cases hvoid : d.isVoid = true
        · simp only [hvoid, if_true]
          exact follows_complain _
        · simp only [hvoid]
          have hfields : Follows s rest (parseFields s parse named n)
              (readFields read named count rest) := by
            apply ih (hback.trans hv)
            · intro w' hw'
              exact hread w' (hw'.trans hback)
            · omega
            · omega
          exact hfields.bind fun _ _ _ _ => follows_pure _

/-- A struct is read behind its opening brace. -/
lemma follows_parseStruct {layout? : String → Option Layout} {parse : Bool → Walk Descriptor}
    {read : Bool → Reader Descriptor} (hv : '\x7b' :: v <:+ s.toList)
    (hread : ∀ named w, w <:+ v → Follows s w (parse named) (read named w))
    (hshort : ∀ named w d rest, read named w = .ok (d, rest) → rest.length < w.length) :
    Follows s v (parseStruct s layout? parse (place s ('\x7b' :: v)))
      (readStruct layout? read ('\x7b' :: v) v) := by
  have htail : v <:+ s.toList := (List.suffix_cons _ v).trans hv
  have hbody : v.dropWhile (!endsName ·) <:+ v := List.dropWhile_suffix _
  unfold parseStruct readStruct
  refine .get (.skipWhile coarse_endsName.not htail (.piece hbody htail ?_))
  rw [textBetween_dropWhile]
  generalize String.ofList (v.takeWhile (!endsName ·)) = name
  cases hdrop : v.dropWhile (!endsName ·) with
  | nil => exact .peek_nil (follows_complain _)
  | cons c body =>
    have hhead := List.head?_dropWhile_not (!endsName ·) v
    have hends : endsName c = true := by simpa [hdrop] using hhead
    rw [hdrop] at hbody
    have hcbody : c :: body <:+ s.toList := hbody.trans htail
    have hback : body <:+ '\x7b' :: v :=
      ((List.suffix_cons c body).trans hbody).trans (List.suffix_cons _ v)
    refine .peek_cons hcbody (.advance hcbody (utf8Size_of_endsName hends) ?_)
    simp only [leadByte_eq_iff (c := c) (d := '\x7d') rfl]
    by_cases hc : c = '\x7d'
    · simp only [if_pos hc]
      cases layout? name with
      | some layout => exact .piece hback hv (follows_pure _)
      | none => exact follows_throw rfl
    · simp only [if_neg hc]
      refine .peek ?_
      rw [byte?_place_beq (hback.trans hv) (show '"'.utf8Size = 1 from rfl)]
      generalize (body.head? == some '"') = named
      have hfields : Follows s body (parseFields s (parse named) named (rounds s))
          (readFields (read named) named (body.length + 1) body) := by
        apply follows_parseFields (hback.trans hv)
        · intro w hw
          exact hread named w (hw.trans ((List.suffix_cons c body).trans hbody))
        · exact hshort named
        · exact length_lt_rounds (hback.trans hv)
        · exact Nat.lt_succ_self _
      refine hfields.bind fun fields rest hrest _ => .piece (hrest.trans hback) hv ?_
      by_cases hempty : fields.isEmpty = true
      · simp only [hempty, if_true]
        exact follows_throw rfl
      · simp only [hempty]
        exact follows_pure _

/-! ### One type -/

variable {layout? : String → Option Layout}

/-- **Progress**: a type that is read makes the rest shorter. -/
lemma length_lt_of_readType {depth : Nat} {named : Bool} {d : Descriptor} {rest : List Char}
    (h : readType layout? depth named v = .ok (d, rest)) : rest.length < v.length := by
  obtain ⟨q, u, shape, tail, rfl, -, hspells, -, -⟩ := derives depth named h
  obtain ⟨c, u, rfl, -⟩ := hspells.exists_cons
  simp only [List.length_append, List.length_cons]
  omega

/-- A pointer is read behind its first sign. -/
lemma follows_parsePointer {parse : Walk Descriptor} {read : Reader Descriptor}
    (hv : '^' :: v <:+ s.toList) (hread : ∀ w, w <:+ v → Follows s w parse (read w)) :
    Follows s v (parsePointer s layout? parse (place s ('^' :: v))) (do
      let (levels, pointee) ← .ok (skipLevels 1 v)
      let (struct?, rest) ← skipPointee read pointee
      let layout := if levels = 1 then struct?.bind layout? else none
      return (.mk (textBetween ('^' :: v) rest) (.pointer levels layout), rest)) := by
  have htail : v <:+ s.toList := (List.suffix_cons _ v).trans hv
  unfold parsePointer
  refine (follows_passLevels htail (length_lt_rounds htail) 1).bind fun levels w hw _ => ?_
  refine (follows_passPointee (hw.trans htail) (hread w hw)).bind fun struct? rest hrest _ => ?_
  exact .piece ((hrest.trans hw).trans (List.suffix_cons _ v)) hv (follows_pure _)

/-- What is behind a type code of one byte is read as it is. -/
lemma follows_parseCoded {parse : Bool → Walk Descriptor} {depth : Nat} (named : Bool)
    (hw : skipQualifiers v = c :: w) (hv : c :: w <:+ s.toList) (hone : c.utf8Size = 1)
    (hread : ∀ named w', w' <:+ w → Follows s w' (parse named) (readType layout? depth named w')) :
    Follows s w (parseCoded s layout? parse named (place s (c :: w)) c)
      (readType layout? (depth + 1) named v) := by
  have hcode' : textBetween (c :: w) w = String.singleton c := by
    rw [show c :: w = [c] ++ w from rfl, textBetween_append]
    rfl
  have hslice := slice_place List.nil_suffix hv
  rw [place_nil, textBetween_nil] at hslice
  unfold parseCoded
  simp only [readType, hw]
  cases hcode : Primitive.ofCode? c with
  | some p =>
    obtain rfl := Primitive.code_of_ofCode?_eq_some hcode
    refine .piece (List.suffix_cons _ w) hv ?_
    rw [hcode']
    exact follows_pure _
  | none =>
    refine .ite (fun hobject => ?_) fun _ => ?_
    · subst hobject
      exact follows_parseObject named hv
    refine .ite (fun _ => follows_pure _) fun _ => ?_
    refine .ite (fun _ => follows_pure _) fun _ => ?_
    refine .ite (fun _ => follows_pure _) fun _ => ?_
    refine .ite (fun _ => follows_pure _) fun _ => ?_
    refine .ite (fun hpointer => ?_) fun _ => ?_
    · subst hpointer
      exact follows_parsePointer hv (hread false)
    refine .ite (fun hstruct => ?_) fun _ => ?_
    · subst hstruct
      exact follows_parseStruct hv hread fun _ _ _ _ => length_lt_of_readType
    refine .ite (fun _ => .checked hslice (follows_throw rfl)) fun _ => ?_
    rw [leadByte_of_one hone]
    exact ⟨run_complainAt _ _ _, fun _ _ hok => by cases hok⟩

/-- No type has a code of more than one byte. -/
lemma ofCode?_of_wide (hc : c.utf8Size ≠ 1) : Primitive.ofCode? c = none := by
  cases hcode : Primitive.ofCode? c with
  | none => rfl
  | some p =>
    have hp := Primitive.code_of_ofCode?_eq_some hcode
    exact absurd hp.symm (ne_of_utf8Size hc (by cases p <;> rfl))

/-- None of the codes with a reading of their own has more than one byte. -/
lemma ne_code_of_wide (hc : c.utf8Size ≠ 1) :
    c ≠ '@' ∧ c ≠ '#' ∧ c ≠ ':' ∧ c ≠ '*' ∧ c ≠ '?' ∧ c ≠ '^' ∧ c ≠ '\x7b' := by
  refine ⟨?_, ?_, ?_, ?_, ?_, ?_, ?_⟩ <;> exact ne_of_utf8Size hc rfl

/-- Where the code of a type has more than one byte, the position, which is in the middle of it, goes
back to where it starts. -/
lemma follows_wide {parse : Bool → Walk Descriptor} {depth : Nat} (named : Bool)
    (hw : skipQualifiers v = c :: w) (hv : c :: w <:+ s.toList) (hc : c.utf8Size ≠ 1) :
    Follows s (c :: w)
      (do advance s; parseCoded s layout? parse named (place s (c :: w)) (readType.leadByte c))
      (readType layout? (depth + 1) named v) := by
  have hbyte := utf8Size_leadByte_ne_one hc
  have hinside : place s (c :: w) + 1 ≤ s.utf8ByteSize := place_lt hv
  unfold parseCoded
  simp only [readType, hw, ofCode?_of_wide hc, ofCode?_of_wide hbyte, ne_code_of_wide hc,
    ne_code_of_wide hbyte, isUnsupported_of_wide hc, isUnsupported_of_wide hbyte, if_false,
    Bool.false_eq_true]
  refine ⟨?_, fun _ _ hok => by cases hok⟩
  rw [← run_complainAt _ _ (place s (c :: w) + 1)]
  change (moveTo s (place s (c :: w) + 1) (place s (c :: w)) >>= _) = _
  rw [moveTo, if_pos hinside]
  rfl

/-- **One type** is read in place as it is read. -/
theorem follows_parseType {depth depth' : Nat} (named : Bool) (hv : v <:+ s.toList)
    (hdepth : v.length < depth) (hdepth' : v.length < depth') :
    Follows s v (parseType s layout? depth named) (readType layout? depth' named v) := by
  induction depth generalizing v depth' named with
  | zero => exact absurd hdepth (Nat.not_lt_zero _)
  | succ depth ih =>
    obtain ⟨depth', rfl⟩ : ∃ k, depth' = k + 1 := ⟨depth' - 1, by omega⟩
    have hskip : v.dropWhile isQualifier <:+ v := List.dropWhile_suffix _
    refine .skipWhile coarse_isQualifier hv (.get ?_)
    cases hw : v.dropWhile isQualifier with
    | nil =>
      simp only [readType, skipQualifiers, hw]
      exact .peek_nil (follows_complain _)
    | cons c w =>
      rw [hw] at hskip
      have hlen := hskip.length_le
      rw [List.length_cons] at hlen
      have hcw : c :: w <:+ s.toList := hskip.trans hv
      refine .peek_cons hcw ?_
      by_cases hone : c.utf8Size = 1
      · rw [leadByte_of_one hone]
        refine .advance hcw hone (follows_parseCoded named hw hcw hone fun named w' hw' => ?_)
        have hle := hw'.length_le
        apply ih
        · exact (hw'.trans (List.suffix_cons c w)).trans hcw
        · omega
        · omega
      · exact follows_wide named hw hcw hone

/-! ### Types at the top level -/

variable {t : Translator}

/-- One type at the top level is read in place as it is read. -/
lemma follows_parseOne (hv : v <:+ s.toList) :
    Follows s v (parseOne s t.layout?) (t.readOne v) := by
  have hprefix := (follows_checkPrefix hv).bind (f := fun _ => parseType s t.layout? (rounds s) false)
    (g := fun r => readType t.layout? (v.length + 1) false r.2)
  rw [bind_map_left] at hprefix
  refine hprefix fun _ w hw _ => ?_
  have hlen := length_lt_rounds hv
  have hle := hw.length_le
  apply follows_parseType false (hw.trans hv)
  · omega
  · omega

/-- Types are read in place one after another. -/
lemma follows_parseAll {n count : Nat} (hv : v <:+ s.toList) (hn : v.length < n)
    (hcount : v.length ≤ count) :
    Follows s v (parseAll s t.layout? n) ((fun ds => (ds, [])) <$> t.readAll count v) := by
  induction n generalizing v count with
  | zero => exact absurd hn (Nat.not_lt_zero _)
  | succ n ih =>
    unfold parseAll
    cases v with
    | nil =>
      have hread : t.readAll count [] = .ok [] := by cases count <;> rfl
      refine .get ?_
      rw [hread, place_nil, if_neg (Nat.lt_irrefl _)]
      exact follows_pure _
    | cons c v =>
      rw [List.length_cons] at hcount
      obtain ⟨count, rfl⟩ : ∃ k, count = k + 1 := ⟨count - 1, by omega⟩
      refine .get ?_
      rw [if_pos (place_lt hv), Translator.readAll, map_bind]
      refine (follows_parseOne hv).bind fun d rest hrest hread => ?_
      have hless : rest.length < (c :: v).length := by
        obtain ⟨-, -, hread⟩ := bind_eq_ok.mp hread
        exact length_lt_of_readType hread
      rw [List.length_cons] at hn hless
      have hbehind : skipOffset rest <:+ rest := List.dropWhile_suffix _
      have hoffset := hbehind.length_le
      simp only [map_bind, map_pure]
      refine .skipWhile coarse_isOffset (hrest.trans hv) ?_
      have hothers : Follows s (skipOffset rest) (parseAll s t.layout? n)
          ((fun ds => (ds, [])) <$> t.readAll count (skipOffset rest)) := by
        apply ih (hbehind.trans (hrest.trans hv))
        · omega
        · omega
      have hall := hothers.bind (f := fun ds => pure (d :: ds)) (g := fun r => .ok (d :: r.1, r.2))
      rw [bind_map_left] at hall
      exact hall fun ds w _ _ => follows_pure _

end Readers

/-! ## Whole texts -/

section Whole

variable {s : String} {t : Translator}

/-- What is read in place from the start of the text, without the position. -/
lemma Follows.run' {α : Type} {walk : Walk α} {x : Except Refusal (α × List Char)}
    (h : Follows s s.toList walk x) :
    StateT.run' walk 0 = ((x.map Prod.fst).mapError (Refusal.toError s)).mapError Halt.error := by
  have hrun := h.run
  rw [place_toList] at hrun
  change Prod.fst <$> walk 0 = _
  rw [hrun]
  cases x <;> rfl

/-- The text has to be read to its end. -/
lemma follows_translate :
    Follows s s.toList
      (do
        let d ← parseOne s t.layout?
        if (← get) ≠ s.utf8ByteSize then complain s .trailingCharacters
        return d)
      (do
        let (d, rest) ← t.readOne s.toList
        if rest ≠ [] then .error (.malformed .trailingCharacters rest) else .ok (d, [])) := by
  refine (follows_parseOne List.suffix_rfl).bind fun d rest hrest _ => .get ?_
  cases rest with
  | nil =>
    rw [place_nil]
    simp only [ne_eq, not_true_eq_false, if_false]
    exact follows_pure _
  | cons c rest =>
    have hne : place s (c :: rest) ≠ s.utf8ByteSize := (place_lt hrest).ne
    simp only [ne_eq, hne, not_false_eq_true, if_true, reduceCtorEq]
    exact follows_complain _

lemma translate_eq : translate t s = (t.translate s).mapError Halt.error := by
  rw [translate, follows_translate.run', Translator.translate]
  cases t.readOne s.toList with
  | error refusal => rfl
  | ok r =>
    obtain ⟨d, rest⟩ := r
    cases rest <;> rfl

lemma split_eq : split t s = (t.split s).mapError Halt.error := by
  have hlen : s.toList.length < rounds s := length_lt_rounds List.suffix_rfl
  rw [split, Follows.run' (follows_parseAll List.suffix_rfl hlen le_rfl), Translator.split]
  cases t.readAll s.toList.length s.toList <;> rfl

lemma parseSignature_eq : parseSignature t s = (t.parseSignature s).mapError Halt.error := by
  rw [parseSignature, split_eq, Translator.parseSignature]
  cases t.split s with
  | error e => rfl
  | ok ds =>
    cases ds with
    | nil => rfl
    | cons ret args =>
      simp only [Except.mapError, ok_bind]
      split <;> rfl

/-- One type is read in place without a slip, and the position moves on to the start of a character. -/
lemma parseType_of_isValid {depth p : Nat} (named : Bool)
    (hp : String.Pos.Raw.IsValid s ⟨p⟩) (hdepth : s.utf8ByteSize < p + depth) :
    (∀ slip, parseType s t.layout? depth named p ≠ .error (.slip slip)) ∧
      ∀ d q, parseType s t.layout? depth named p = .ok (d, q) →
        p < q ∧ q ≤ s.utf8ByteSize ∧ String.Pos.Raw.IsValid s ⟨q⟩ := by
  obtain ⟨v, hv, rfl⟩ := isValid_iff_exists_place.mp hp
  have hlen : v.length < depth := by
    have hsum := place_add hv
    have hle := length_le_byteCount v
    omega
  have hread : Follows s v (parseType s t.layout? depth named)
      (readType t.layout? (v.length + 1) named v) :=
    follows_parseType named hv hlen (Nat.lt_succ_self _)
  rw [hread.run]
  cases hresult : readType t.layout? (v.length + 1) named v with
  | error refusal =>
    constructor
    · intro slip h
      cases h
    · intro d q h
      cases h
  | ok r =>
    obtain ⟨d', rest⟩ := r
    constructor
    · intro slip h
      cases h
    · intro d q h
      cases h
      have hshort := length_lt_of_readType hresult
      obtain ⟨u, rfl⟩ := hread.suffix d' rest hresult
      have hsuffix : rest <:+ s.toList := (List.suffix_append u rest).trans hv
      have hbytes := length_le_byteCount u
      have hmoved := place_append hv
      rw [List.length_append] at hshort
      exact ⟨by omega, place_le rest, isValid_place hsuffix⟩

end Whole

end MessageBridge.Encoding.Cursor

namespace MessageBridge.Translator

open Encoding

/-- **Types are read in place**: translating a type encoding, splitting a type string and parsing a
signature byte by byte, with every step checked, comes to the result or to the error, and to no slip.
One type, read from the start of a character, leaves the position at the start of a later one or at the
end of the text. -/
theorem read_in_place (t : Translator) (s : String) :
    Cursor.translate t s = (t.translate s).mapError .error ∧
      Cursor.split t s = (t.split s).mapError .error ∧
      Cursor.parseSignature t s = (t.parseSignature s).mapError .error ∧
      ∀ depth named p, String.Pos.Raw.IsValid s ⟨p⟩ → s.utf8ByteSize < p + depth →
        (∀ slip, Cursor.parseType s t.layout? depth named p ≠ .error (.slip slip)) ∧
        ∀ d q, Cursor.parseType s t.layout? depth named p = .ok (d, q) →
          p < q ∧ q ≤ s.utf8ByteSize ∧ String.Pos.Raw.IsValid s ⟨q⟩ :=
  ⟨Cursor.translate_eq, Cursor.split_eq, Cursor.parseSignature_eq,
    fun _ named _ => Cursor.parseType_of_isValid named⟩

/-- A struct whose name is not ASCII, a constant, is read from its qualifier up to its offset. -/
theorem read_in_place_struct :
    ∃ d, Cursor.parseType "r\x7bé=d\x7d8" (fun _ => none) 9 false 0 = .ok (d, 7) ∧
      0 < 7 ∧ 7 ≤ "r\x7bé=d\x7d8".utf8ByteSize ∧
      String.Pos.Raw.IsValid "r\x7bé=d\x7d8" ⟨7⟩ := by
  have hread : Cursor.parseType "r\x7bé=d\x7d8" (fun _ => none) 9 false 0 =
      .ok (.mk "\x7bé=d\x7d" (.aggregate (Layout.ofFields "é" [(none, .scalar .double)])), 7) := by
    rfl
  obtain ⟨-, -, -, htype⟩ := read_in_place ⟨[]⟩ "r\x7bé=d\x7d8"
  exact ⟨_, hread, (htype 9 false 0 (by decide) (by decide)).2 _ _ hread⟩

end MessageBridge.Translator
