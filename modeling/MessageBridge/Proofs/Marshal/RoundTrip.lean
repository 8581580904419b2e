import MessageBridge.Proofs.Marshal.Transit

/-!
# Types without addresses

A value of a type that holds no address is its bytes: writing and reading it depends on nothing but the
value and the bytes, and changes nothing. The scalars of a struct lie apart, so that both directions can
be followed byte by byte: what was read is written back to the same places, and the bytes between the
fields are never written.

## Main definitions

* `Descriptor.Flat` — an integer, a truth value, a double, or a struct of such.
* `Shape.scalars` — the scalars of a shape with their offsets, and `Covers` the bytes that they take.
* `Shape.normal?` — what a value becomes as a shape.
* `Act.Written` — what writing into a buffer does when it ends well.

## Main results

* `Act.restores_flat` — bytes of a flat type are read, and written back as they were.
* `Act.settles_flat` — a value is refused, or written and read as what it becomes.
* `Act.flat_round_trip` — both, for every type, byte and value.
-/

namespace MessageBridge

/-! ## Flat types -/

/-- **Flat**: an integer, a truth value, a double, or a struct of such that is laid out by the C
rules. -/
inductive Descriptor.Flat : Descriptor → Prop
  | scalar {encoding : String} {p : Primitive} (hvoid : p ≠ .void) (hfloat : p ≠ .float) :
      Flat (.mk encoding (.scalar p))
  | struct {encoding name : String} {fields : List (Option String × Descriptor)}
      (hfields : ∀ f ∈ fields, Flat f.2) : Flat (.mk encoding (.aggregate (.ofFields name fields)))

lemma Descriptor.Flat.plain {d : Descriptor} (hd : d.Flat) : d.Plain := by
  induction hd with
  | scalar hvoid => exact .scalar hvoid
  | struct _ ih => exact .struct ih

/-- A flat field is written in place. -/
lemma Descriptor.Flat.isInline {d : Descriptor} (hd : d.Flat) : d.shape.isInline = true := by
  cases hd with
  | scalar | struct => rfl

/-! ## Scalars of a struct -/

mutual

/-- The scalars of a shape with their offsets, at any depth. -/
def Shape.scalars : Shape → List (Nat × Primitive)
  | .scalar p => [(0, p)]
  | .aggregate l => l.scalars
  | .object _ | .classRef | .selector | .cString | .pointer _ _ => []

/-- The scalars of a struct. -/
def Layout.scalars : Layout → List (Nat × Primitive)
  | .mk _ fields _ _ => Field.scalars fields

/-- The scalars of the fields of a struct. -/
def Field.scalars : List Field → List (Nat × Primitive)
  | [] => []
  | .mk _ offset (.mk _ shape) :: fields =>
    shape.scalars.map (fun x => (offset + x.1, x.2)) ++ Field.scalars fields

end

/-- **Covers**: one of the scalars takes the byte. -/
def Covers (scalars : List (Nat × Primitive)) (i : Nat) : Prop :=
  ∃ x ∈ scalars, x.1 ≤ i ∧ i < x.1 + x.2.size

/-- **Truthful**: every truth value in the bytes is zero or one. -/
def Truthful (scalars : List (Nat × Primitive)) (bytes : List UInt8) : Prop :=
  ∀ x ∈ scalars, x.2 = .bool → bytes[x.1]? = some 0 ∨ bytes[x.1]? = some 1

instance (scalars : List (Nat × Primitive)) (i : Nat) : Decidable (Covers scalars i) :=
  inferInstanceAs (Decidable (∃ x ∈ scalars, x.1 ≤ i ∧ i < x.1 + x.2.size))

instance (scalars : List (Nat × Primitive)) (bytes : List UInt8) :
    Decidable (Truthful scalars bytes) :=
  inferInstanceAs (Decidable
    (∀ x ∈ scalars, x.2 = .bool → bytes[x.1]? = some 0 ∨ bytes[x.1]? = some 1))

lemma Field.scalars_cons (name : Option String) (offset : Nat) (d : Descriptor)
    (fields : List Field) : Field.scalars (.mk name offset d :: fields) =
      d.shape.scalars.map (fun x => (offset + x.1, x.2)) ++ Field.scalars fields := by
  obtain ⟨encoding, shape⟩ := d
  rw [Field.scalars, Descriptor.shape]

section Scalars

variable {name : Option String} {offset i : Nat} {d : Descriptor} {f : Field} {fields : List Field}
  {bytes : List UInt8}

/-- A byte of a struct belongs to its first field or to another one. -/
lemma covers_cons : Covers (Field.scalars (f :: fields)) i ↔
    Covers (Field.scalars [f]) i ∨ Covers (Field.scalars fields) i := by
  obtain ⟨name, offset, d⟩ := f
  simp only [Field.scalars_cons, Field.scalars, List.append_nil, Covers, List.mem_append,
    or_and_right, exists_or]

/-- The bytes of a field are those of its type, behind its offset. -/
lemma covers_field : Covers (Field.scalars [.mk name offset d]) i ↔
    offset ≤ i ∧ Covers d.shape.scalars (i - offset) := by
  rw [Field.scalars_cons, Field.scalars, List.append_nil]
  constructor
  · rintro ⟨_, hmem, hle, hlt⟩
    obtain ⟨x, hx, rfl⟩ := List.mem_map.mp hmem
    simp only at hle hlt
    exact ⟨by omega, x, hx, by omega, by omega⟩
  · rintro ⟨hle, x, hx, hle', hlt⟩
    exact ⟨_, List.mem_map_of_mem hx, by simp only; omega, by simp only; omega⟩

/-- The scalars of placed fields lie behind the start and before the end. -/
lemma mem_scalars_place {fields : List (Option String × Descriptor)}
    (hfields : ∀ f ∈ fields, ∀ x ∈ f.2.shape.scalars, x.1 + x.2.size ≤ f.2.size) {start : Nat}
    {x : Nat × Primitive} (hx : x ∈ Field.scalars (Layout.place start fields).1) :
    start ≤ x.1 ∧ x.1 + x.2.size ≤ (Layout.place start fields).2 := by
  induction fields generalizing start with
  | nil => cases hx
  | cons f fields ih =>
    obtain ⟨name, d⟩ := f
    have hstart := le_roundUp start d.alignment
    have hstop := Layout.le_place (roundUp start d.alignment + d.size) fields
    rw [Layout.place_cons] at hx ⊢
    simp only [Field.scalars_cons, List.mem_append] at hx ⊢
    rcases hx with hx | hx
    · obtain ⟨y, hy, rfl⟩ := List.mem_map.mp hx
      have hsize := hfields (name, d) (List.mem_cons_self ..) y hy
      simp only at hsize ⊢
      omega
    · have := ih (fun f hf => hfields f (List.mem_cons_of_mem _ hf)) hx
      omega

/-- The scalars of a flat type lie inside it. -/
lemma Descriptor.Flat.scalar_le (hd : d.Flat) :
    ∀ x ∈ d.shape.scalars, x.1 + x.2.size ≤ d.size := by
  induction hd with
  | @scalar encoding p =>
    intro x hx
    obtain rfl := List.mem_singleton.mp hx
    exact Nat.le_of_eq (Nat.zero_add _)
  | @struct encoding name fields hfields ih =>
    intro x hx
    exact (mem_scalars_place ih hx).2.trans (Layout.place_le_size fields name)

lemma Descriptor.Flat.lt_of_covers (hd : d.Flat) (h : Covers d.shape.scalars i) : i < d.size := by
  obtain ⟨x, hx, -, hlt⟩ := h
  exact hlt.trans_le (hd.scalar_le x hx)

/-- Truth values in the bytes of a struct are truth values in those of its first field. -/
lemma Truthful.field (hd : d.Flat)
    (h : Truthful (Field.scalars (.mk name offset d :: fields)) bytes) :
    Truthful d.shape.scalars (sliceBytes bytes offset d.size) := by
  intro x hx hbool
  have hsize := hd.scalar_le x hx
  rw [hbool] at hsize
  rw [getElem?_sliceBytes, if_pos (Nat.lt_of_succ_le hsize)]
  refine h (offset + x.1, x.2) ?_ hbool
  rw [Field.scalars_cons]
  exact List.mem_append_left _ (List.mem_map_of_mem hx)

lemma Truthful.tail (h : Truthful (Field.scalars (f :: fields)) bytes) :
    Truthful (Field.scalars fields) bytes := by
  obtain ⟨name, offset, d⟩ := f
  rw [Field.scalars_cons] at h
  exact fun x hx => h x (List.mem_append_right _ hx)

end Scalars

/-! ## What a value becomes -/

mutual

/-- What a value becomes as a shape without addresses, if it is a value for it. A struct takes the
declared layout, and may come with another one that is as large and has as many fields. -/
def Shape.normal? : Shape → Value → Option Value
  | .scalar p, v => p.norm? v
  | .aggregate l, .struct layout vs =>
    if l.size = layout.size ∧ l.fields.length = vs.length then (l.normals? vs).map (.struct l)
    else none
  | _, _ => none

/-- The same for the values of the fields of a struct. -/
def Layout.normals? : Layout → List Value → Option (List Value)
  | .mk _ fields _ _, vs => Field.normals? fields vs

/-- The same for the values of fields. Nil is zero there. -/
def Field.normals? : List Field → List Value → Option (List Value)
  | .mk _ _ (.mk _ shape) :: fields, v :: vs =>
    (if v.isNil then some shape.zero else shape.normal? v).bind fun w =>
      (Field.normals? fields vs).map (w :: ·)
  | _, _ => some []

end

/-- What a value becomes as a field of a shape. -/
def Shape.normalIn? (s : Shape) (v : Value) : Option Value :=
  if v.isNil then some s.zero else s.normal? v

lemma Field.normals?_cons (name : Option String) (offset : Nat) (d : Descriptor)
    (fields : List Field) (v : Value) (vs : List Value) :
    Field.normals? (.mk name offset d :: fields) (v :: vs) =
      (d.shape.normalIn? v).bind fun w => (Field.normals? fields vs).map (w :: ·) := by
  obtain ⟨encoding, shape⟩ := d
  rw [Field.normals?, Descriptor.shape, Shape.normalIn?]

lemma Field.length_normals? {fields : List Field} {vs ws : List Value}
    (hlength : fields.length = vs.length) (h : Field.normals? fields vs = some ws) :
    ws.length = fields.length := by
  induction fields generalizing vs ws with
  | nil =>
    rw [Field.normals?] at h
    · cases h
      rfl
    · rintro _ _ _ _ _ _ _ ⟨⟩
  | cons f fields ih =>
    obtain ⟨name, offset, d⟩ := f
    cases vs with
    | nil => cases hlength
    | cons v vs =>
      rw [Field.normals?_cons] at h
      obtain ⟨w, -, h⟩ := Option.bind_eq_some_iff.mp h
      obtain ⟨ws, hws, rfl⟩ := Option.map_eq_some_iff.mp h
      rw [List.length_cons, List.length_cons, ih (Nat.succ.inj hlength) hws]

namespace Act

variable {ctx : ContextId} {index : Nat}

/-! ## Writing into a buffer -/

/-- **Written**: in every state, which stays as it is, the action ends with the bytes, and these are as
before where none of the scalars lies. -/
structure Written (act : Act (List UInt8 × List Address)) (out written : List UInt8)
    (scalars : List (Nat × Primitive)) : Prop where
  run : ∀ b, EStateM.run act b = .ok (written, []) b
  length : written.length = out.length
  apart : ∀ i, ¬Covers scalars i → written[i]? = out[i]?

/-- **Refused**: in every state, which stays as it is, the action ends with an error. -/
def Refused {α : Type} (act : Act α) : Prop := ∀ b, ∃ e, EStateM.run act b = .error (.error e) b

/-- Bytes before all scalars are as before. -/
lemma Written.take_eq {act : Act (List UInt8 × List Address)} {out written : List UInt8}
    {scalars : List (Nat × Primitive)} (h : Written act out written scalars) {n : Nat}
    (hn : ∀ x ∈ scalars, n ≤ x.1) : written.take n = out.take n := by
  refine List.ext_getElem? fun i => ?_
  rw [List.getElem?_take, List.getElem?_take]
  split
  · next hi => exact h.apart i fun ⟨x, hx, hle, _⟩ => absurd (hn x hx) (by omega)
  · rfl

/-- Bytes behind all scalars are as before. -/
lemma Written.drop_eq {act : Act (List UInt8 × List Address)} {out written : List UInt8}
    {scalars : List (Nat × Primitive)} (h : Written act out written scalars) {n : Nat}
    (hn : ∀ x ∈ scalars, x.1 + x.2.size ≤ n) : written.drop n = out.drop n := by
  refine List.ext_getElem? fun i => ?_
  rw [List.getElem?_drop, List.getElem?_drop]
  exact h.apart (n + i) fun ⟨x, hx, _, hlt⟩ => absurd (hn x hx) (by omega)

section Fields

variable {name : Option String} {offset : Nat} {d : Descriptor} {f : Field} {fields : List Field}
  {out written more bytes : List UInt8} {v : Value} {vs : List Value}

/-- A field that is not nil is written into its bytes. -/
lemma encodeField_of_not_isNil (hv : v.isNil = false) :
    encodeField ctx index (.mk name offset d) out v =
      encode ctx index d (sliceBytes out offset d.size) v >>= fun r =>
        pure (overwriteBytes out offset r.1, r.2) := by
  unfold encodeField
  rw [hv]
  rfl

/-- Nil for a flat field is not written. -/
lemma written_field_nil (hd : d.Flat) :
    Written (encodeField ctx index (.mk name offset d) out .nil) out out
      (Field.scalars [.mk name offset d]) := by
  refine ⟨fun b => ?_, rfl, fun _ _ => rfl⟩
  have hinline : (Field.mk name offset d).descriptor.shape.isInline = true := hd.isInline
  unfold encodeField
  rw [hinline]
  rfl

lemma Written.field (hv : v.isNil = false) (hend : offset + d.size ≤ out.length)
    (h : Written (encode ctx index d (sliceBytes out offset d.size) v)
      (sliceBytes out offset d.size) bytes d.shape.scalars) :
    Written (encodeField ctx index (.mk name offset d) out v) out (overwriteBytes out offset bytes)
      (Field.scalars [.mk name offset d]) := by
  have hlength : bytes.length = d.size := h.length.trans (length_sliceBytes hend)
  refine ⟨fun b => ?_, length_overwriteBytes (by omega), fun i hi => ?_⟩
  · rw [encodeField_of_not_isNil hv, run_bind_ok (h.run b)]
    rfl
  · rw [getElem?_overwriteBytes (by omega)]
    split
    · next hin =>
      rw [h.apart (i - offset) fun hcovers => hi (covers_field.mpr ⟨hin.1, hcovers⟩),
        getElem?_sliceBytes, if_pos (by omega), Nat.add_sub_cancel' hin.1]
    · rfl

lemma Refused.field (hv : v.isNil = false)
    (h : Refused (encode ctx index d (sliceBytes out offset d.size) v)) :
    Refused (encodeField ctx index (.mk name offset d) out v) := by
  intro b
  obtain ⟨e, he⟩ := h b
  rw [encodeField_of_not_isNil hv]
  exact ⟨e, run_bind_error he⟩

/-- The fields of a struct are written one after another. -/
lemma Written.cons (h : Written (encodeField ctx index f out v) out written (Field.scalars [f]))
    (hs : Written (encodeFields ctx index fields written vs) written more (Field.scalars fields)) :
    Written (encodeFields ctx index (f :: fields) out (v :: vs)) out more
      (Field.scalars (f :: fields)) := by
  refine ⟨fun b => ?_, hs.length.trans h.length, fun i hi => ?_⟩
  · rw [encodeFields_cons, run_bind_ok (h.run b)]
    exact (run_bind_ok (hs.run b)).trans rfl
  · rw [covers_cons, not_or] at hi
    rw [hs.apart i hi.2, h.apart i hi.1]

lemma Refused.head (h : Refused (encodeField ctx index f out v)) :
    Refused (encodeFields ctx index (f :: fields) out (v :: vs)) := by
  intro b
  obtain ⟨e, he⟩ := h b
  rw [encodeFields_cons]
  exact ⟨e, run_bind_error he⟩

lemma Refused.tail (h : Written (encodeField ctx index f out v) out written (Field.scalars [f]))
    (hs : Refused (encodeFields ctx index fields written vs)) :
    Refused (encodeFields ctx index (f :: fields) out (v :: vs)) := by
  intro b
  obtain ⟨e, he⟩ := hs b
  rw [encodeFields_cons, run_bind_ok (h.run b)]
  exact ⟨e, run_bind_error he⟩

end Fields

section Scalar

variable {encoding : String} {p : Primitive} {v : Value} {bytes out : List UInt8}

lemma covers_scalar {i : Nat} : Covers (Shape.scalar p).scalars i ↔ i < p.size := by
  simp [Covers, Shape.scalars]

/-- A scalar is written at the front of a buffer. -/
lemma written_scalar (hbytes : p.encode? v = some bytes) (hout : p.size ≤ out.length) :
    Written (encode ctx index (.mk encoding (.scalar p)) out v) out (overwriteBytes out 0 bytes)
      (Shape.scalar p).scalars := by
  have hlength : bytes.length = p.size := Primitive.length_of_encode? hbytes
  refine ⟨fun b => ?_, length_overwriteBytes (by omega), fun i hi => ?_⟩
  · unfold encode
    simp only [Descriptor.shape, hbytes]
    rfl
  · rw [covers_scalar] at hi
    rw [getElem?_overwriteBytes (by omega), if_neg (by omega)]

end Scalar

/-! ## From bytes to bytes -/

/-- **Restores**: bytes of the type are read as a value, which is written into any buffer as the bytes
that it was read from. -/
def Restores (ctx : ContextId) (index : Nat) (d : Descriptor) : Prop :=
  ∀ {bytes : List UInt8}, d.size ≤ bytes.length → Truthful d.shape.scalars bytes →
    ∃ v, v.isNil = false ∧ Reads ctx bytes d.shape v ∧ ∀ {out}, d.size ≤ out.length → ∃ written,
      Written (encode ctx index d out v) out written d.shape.scalars ∧
        ∀ i, Covers d.shape.scalars i → written[i]? = bytes[i]?

lemma restores_scalar {encoding : String} {p : Primitive} (hvoid : p ≠ .void) (hfloat : p ≠ .float) :
    Restores ctx index (.mk encoding (.scalar p)) := by
  intro bytes hbytes htruth
  have hencode : p.encode? (p.decode bytes) = some (bytes.take p.size) :=
    Primitive.encode?_decode hvoid hfloat hbytes (htruth (0, p) (List.mem_singleton_self _))
  refine ⟨p.decode bytes, ?_, fun b => ?_, fun {out} hout => ⟨_, written_scalar hencode hout, ?_⟩⟩
  · cases hnil : p.decode bytes with
    | nil =>
      have hnone : p.encode? .nil = none := Primitive.encode?_eq_none_iff.mpr p.norm?_nil
      rw [hnil, hnone] at hencode
      cases hencode
    | _ => rfl
  · simp only [Descriptor.shape, decodeShape]
    rfl
  · intro i hi
    have hlt : i < p.size := covers_scalar.mp hi
    have hwidth : (bytes.take p.size).length = p.size := List.length_take_of_le hbytes
    have hout' : p.size ≤ out.length := hout
    rw [getElem?_overwriteBytes (by omega), if_pos (by omega), Nat.sub_zero,
      List.getElem?_take_of_lt hlt]

/-- The fields of a struct are read and written back one by one. All take their bytes from the same
image, so that none spoils what another one has restored. -/
lemma restores_fields {bytes : List UInt8} {fields : List Field}
    (hfields : ∀ f ∈ fields, f.descriptor.Flat ∧ Restores ctx index f.descriptor ∧
      f.offset + f.descriptor.size ≤ bytes.length)
    (htruth : Truthful (Field.scalars fields) bytes) :
    ∃ vs, vs.length = fields.length ∧ ReadsFields ctx bytes fields vs ∧
      ∀ out, (∀ f ∈ fields, f.offset + f.descriptor.size ≤ out.length) → ∃ written,
        Written (encodeFields ctx index fields out vs) out written (Field.scalars fields) ∧
          ∀ i, Covers (Field.scalars fields) i → written[i]? = bytes[i]? := by
  induction fields with
  | nil =>
    refine ⟨[], rfl, fun _ => rfl, fun out _ => ⟨out, ⟨fun b => ?_, rfl, fun _ _ => rfl⟩, ?_⟩⟩
    · unfold encodeFields
      rfl
    · rintro i ⟨x, hx, -⟩
      cases hx
  | cons f fields ih =>
    obtain ⟨name, offset, d⟩ := f
    obtain ⟨hflat, hrestores, hend⟩ := hfields _ (List.mem_cons_self ..)
    simp only [Field.descriptor, Field.offset] at hflat hrestores hend
    obtain ⟨v, hv, hread, hwrite⟩ :=
      hrestores (Nat.le_of_eq (length_sliceBytes hend).symm) (htruth.field hflat)
    obtain ⟨vs, hlength, hreads, hwrites⟩ :=
      ih (fun f hf => hfields f (List.mem_cons_of_mem _ hf)) htruth.tail
    refine ⟨v :: vs, by rw [List.length_cons, List.length_cons, hlength], hread.cons hreads,
      fun out hout => ?_⟩
    have hroom : offset + d.size ≤ out.length := hout _ (List.mem_cons_self ..)
    obtain ⟨field, hfield, hsame⟩ := hwrite (Nat.le_of_eq (length_sliceBytes hroom).symm)
    have hhead : Written (encodeField ctx index (.mk name offset d) out v) out
        (overwriteBytes out offset field) (Field.scalars [.mk name offset d]) := hfield.field hv hroom
    obtain ⟨written, htail, hrest⟩ := hwrites (overwriteBytes out offset field) fun f hf => by
      rw [hhead.length]
      exact hout f (List.mem_cons_of_mem _ hf)
    refine ⟨written, hhead.cons htail, fun i hi => ?_⟩
    by_cases hlater : Covers (Field.scalars fields) i
    · exact hrest i hlater
    · obtain ⟨hle, hcovers⟩ := covers_field.mp ((covers_cons.mp hi).resolve_right hlater)
      have hlt := hflat.lt_of_covers hcovers
      have hwidth : field.length = d.size := hfield.length.trans (length_sliceBytes hroom)
      rw [htail.apart i hlater, getElem?_overwriteBytes (by omega), if_pos (by omega),
        hsame _ hcovers, getElem?_sliceBytes, if_pos hlt, Nat.add_sub_cancel' hle]

/-- **Every flat type** restores its bytes. -/
theorem restores_flat {d : Descriptor} (hd : d.Flat) : Restores ctx index d := by
  induction hd with
  | scalar hvoid hfloat => exact restores_scalar hvoid hfloat
  | @struct encoding name fields hflat ih =>
    intro bytes hbytes htruth
    have hplace (n : Nat) (hn : (Layout.ofFields name fields).size ≤ n) :
        ∀ f ∈ (Layout.place 0 fields).1, f.offset + f.descriptor.size ≤ n := fun f hf =>
      (Layout.mem_place 0 fields hf).2.1.trans ((Layout.place_le_size fields name).trans hn)
    obtain ⟨vs, hlength, hreads, hwrites⟩ := restores_fields (fun f hf =>
      have hmem := (Layout.mem_place 0 fields hf).2.2
      ⟨hflat _ hmem, ih _ hmem, hplace _ hbytes f hf⟩) htruth
    refine ⟨.struct (.ofFields name fields) vs, rfl,
      fun b => run_decodeLayout (hreads b) hlength, fun {out} hout => ?_⟩
    obtain ⟨written, hwritten, hsame⟩ := hwrites out (hplace _ hout)
    refine ⟨written, ⟨fun b => ?_, hwritten.length, hwritten.apart⟩, hsame⟩
    unfold encode
    simp only [Descriptor.shape]
    rw [if_pos ⟨trivial, hlength.symm⟩]
    exact hwritten.run b

/-! ## From values to values -/

/-- **Settles**: a value of which nothing comes as the type is refused. Any other is written, and read
as what it becomes where it was written into zeros. -/
def Settles (ctx : ContextId) (index : Nat) (d : Descriptor) : Prop :=
  ∀ v {out}, d.size ≤ out.length →
    (d.shape.normal? v = none → Refused (encode ctx index d out v)) ∧
    ∀ w, d.shape.normal? v = some w → ∃ written,
      Written (encode ctx index d out v) out written d.shape.scalars ∧
        (Zeroed out → ∀ rest, Reads ctx (written ++ rest) d.shape w)

lemma settles_scalar {encoding : String} {p : Primitive} :
    Settles ctx index (.mk encoding (.scalar p)) := by
  intro v out hout
  refine ⟨fun h b => ?_, fun w h => ?_⟩
  · have hnone : p.encode? v = none := Primitive.encode?_eq_none_iff.mpr h
    unfold encode
    simp only [Descriptor.shape, hnone]
    exact ⟨_, rfl⟩
  · have hnorm : p.norm? v = some w := h
    cases hbytes : p.encode? v with
    | none =>
      rw [Primitive.encode?_eq_none_iff.mp hbytes] at hnorm
      cases hnorm
    | some bytes =>
      refine ⟨_, written_scalar hbytes hout, fun _ rest b => ?_⟩
      rw [Primitive.decode_of_encode? hbytes (out.drop (0 + bytes.length) ++ rest)] at hnorm
      cases hnorm
      simp only [Descriptor.shape, decodeShape, overwriteBytes, List.take_zero, List.nil_append,
        List.append_assoc]
      rfl

/-- One field of a struct: nil leaves the zeros that are there, any other value is written over
them. -/
lemma settles_field (name : Option String) {offset : Nat} {d : Descriptor} (hd : d.Flat)
    (h : Settles ctx index d) (v : Value) {out : List UInt8} (hend : offset + d.size ≤ out.length) :
    (d.shape.normalIn? v = none → Refused (encodeField ctx index (.mk name offset d) out v)) ∧
    ∀ w, d.shape.normalIn? v = some w → ∃ written,
      Written (encodeField ctx index (.mk name offset d) out v) out written
        (Field.scalars [.mk name offset d]) ∧
        (Zeroed (sliceBytes out offset d.size) →
          Reads ctx (sliceBytes written offset d.size) d.shape w) := by
  have hlength : (sliceBytes out offset d.size).length = d.size := length_sliceBytes hend
  unfold Shape.normalIn?
  cases hv : v.isNil with
  | true =>
    obtain rfl : v = .nil := by cases v <;> first | rfl | cases hv
    refine ⟨fun h => (by cases h), fun w hw => ?_⟩
    cases hw
    refine ⟨out, written_field_nil hd, fun hzero => ?_⟩
    rw [hzero.eq_replicate, hlength]
    simpa using reads_zero hd.plain.laid []
  | false =>
    obtain ⟨hrefused, hwritten⟩ := h v (Nat.le_of_eq hlength.symm)
    refine ⟨fun hnone => (hrefused hnone).field hv, fun w hw => ?_⟩
    obtain ⟨bytes, hbytes, hreads⟩ := hwritten w hw
    refine ⟨_, hbytes.field hv hend, fun hzero => ?_⟩
    have hwidth : bytes.length = d.size := hbytes.length.trans hlength
    rw [← hwidth] at hend ⊢
    rw [sliceBytes_overwriteBytes hend]
    simpa using hreads hzero []

/-- The fields of a struct lie one behind the other, so that what was written for one is still there
when the others have been written. -/
lemma settles_fields {fields : List (Option String × Descriptor)}
    (hfields : ∀ f ∈ fields, f.2.Flat ∧ Settles ctx index f.2) (start : Nat) {vs : List Value}
    {out : List UInt8} (hlength : (Layout.place start fields).1.length = vs.length)
    (hstop : (Layout.place start fields).2 ≤ out.length) :
    (Field.normals? (Layout.place start fields).1 vs = none →
      Refused (encodeFields ctx index (Layout.place start fields).1 out vs)) ∧
    ∀ ws, Field.normals? (Layout.place start fields).1 vs = some ws → ∃ written,
      Written (encodeFields ctx index (Layout.place start fields).1 out vs) out written
        (Field.scalars (Layout.place start fields).1) ∧
        (Zeroed (out.drop start) → ∀ rest,
          ReadsFields ctx (written ++ rest) (Layout.place start fields).1 ws) := by
  induction fields generalizing start vs out with
  | nil =>
    obtain rfl : vs = [] := List.length_eq_zero_iff.mp hlength.symm
    refine ⟨fun h => (by cases h), fun ws hws => ⟨out, ⟨fun b => ?_, rfl, fun _ _ => rfl⟩, ?_⟩⟩
    · unfold Layout.place encodeFields
      rfl
    · cases hws
      exact fun _ rest _ => rfl
  | cons f fields ih =>
    obtain ⟨name, d⟩ := f
    obtain ⟨hflat, hsettles⟩ : d.Flat ∧ Settles ctx index d :=
      hfields (name, d) (List.mem_cons_self ..)
    have hstart := le_roundUp start d.alignment
    have hle := Layout.le_place (roundUp start d.alignment + d.size) fields
    rw [Layout.place_cons] at hlength hstop ⊢
    generalize roundUp start d.alignment = offset at hlength hstop hstart hle ⊢
    simp only at hlength hstop ⊢
    have hend : offset + d.size ≤ out.length := by omega
    cases vs with
    | nil => cases hlength
    | cons v vs =>
      obtain ⟨hrefused, hwritten⟩ := settles_field name hflat hsettles v hend
      rw [Field.normals?_cons]
      cases hv : d.shape.normalIn? v with
      | none => exact ⟨fun _ => (hrefused hv).head, fun ws h => (by cases h)⟩
      | some w =>
        obtain ⟨first, hfirst, hread⟩ := hwritten w hv
        obtain ⟨hrefused', hwritten'⟩ := ih (fun f hf => hfields f (List.mem_cons_of_mem _ hf))
          (offset + d.size) (Nat.succ.inj hlength) (by rw [hfirst.length]; exact hstop)
        rw [Option.bind_some, Option.map_eq_none_iff]
        refine ⟨fun h => (hrefused' h).tail hfirst, fun ws hws => ?_⟩
        obtain ⟨ws, hvs, rfl⟩ := Option.map_eq_some_iff.mp hws
        obtain ⟨written, hrest, hreads⟩ := hwritten' ws hvs
        refine ⟨written, hfirst.cons hrest, fun hzero rest => ?_⟩
        have hzero' : Zeroed (out.drop offset) := by
          have := hzero.drop (offset - start)
          rwa [List.drop_drop, Nat.add_sub_cancel' hstart] at this
        have hbehind : first.drop (offset + d.size) = out.drop (offset + d.size) :=
          hfirst.drop_eq fun x hx => by
            rw [Field.scalars_cons, Field.scalars, List.append_nil] at hx
            obtain ⟨y, hy, rfl⟩ := List.mem_map.mp hx
            have := hflat.scalar_le y hy
            simp only
            omega
        have hbefore : written.take (offset + d.size) = first.take (offset + d.size) :=
          hrest.take_eq fun x hx =>
            (mem_scalars_place (fun f hf => (hfields f (List.mem_cons_of_mem _ hf)).1.scalar_le)
              hx).1
        refine Reads.cons ?_ (hreads ?_ rest)
        · have hroom : offset + d.size ≤ written.length := by
            rw [hrest.length, hfirst.length]
            exact hend
          rw [sliceBytes_append hroom, sliceBytes_congr hbefore (Nat.le_refl _)]
          exact hread (hzero'.take _)
        · rw [hbehind, ← List.drop_drop]
          exact hzero'.drop _

/-- **Every flat type** settles what comes of a value. -/
theorem settles_flat {d : Descriptor} (hd : d.Flat) : Settles ctx index d := by
  induction hd with
  | scalar => exact settles_scalar
  | @struct encoding name fields hflat ih =>
    intro v out hout
    have hrefused (h : ∀ layout vs, v ≠ .struct layout vs) :
        Refused (encode ctx index (.mk encoding (.aggregate (.ofFields name fields))) out v) := by
      intro b
      unfold encode
      cases v with
      | struct layout vs => exact absurd rfl (h layout vs)
      | _ => exact ⟨_, rfl⟩
    cases v with
    | struct layout vs =>
      have hencode : encode ctx index (.mk encoding (.aggregate (.ofFields name fields))) out
          (.struct layout vs) =
          if (Layout.ofFields name fields).size = layout.size ∧
            (Layout.place 0 fields).1.length = vs.length then
            encodeFields ctx index (Layout.place 0 fields).1 out vs
          else fail (.argumentTypeMismatch index encoding (Value.struct layout vs).kindName) := by
        conv_lhs => unfold encode
        rfl
      have hnormal : (Shape.aggregate (.ofFields name fields)).normal? (.struct layout vs) =
          if (Layout.ofFields name fields).size = layout.size ∧
            (Layout.place 0 fields).1.length = vs.length then
            (Field.normals? (Layout.place 0 fields).1 vs).map (.struct (.ofFields name fields))
          else none := by
        rw [Shape.normal?]
        rfl
      rw [hencode]
      simp only [Descriptor.shape]
      rw [hnormal]
      by_cases hfits : (Layout.ofFields name fields).size = layout.size ∧
          (Layout.place 0 fields).1.length = vs.length
      · rw [if_pos hfits, if_pos hfits, Option.map_eq_none_iff]
        obtain ⟨hnone, hsome⟩ := settles_fields (fun f hf => ⟨hflat f hf, ih f hf⟩) 0 hfits.2
          ((Layout.place_le_size fields name).trans hout)
        refine ⟨hnone, fun w hw => ?_⟩
        obtain ⟨ws, hws, rfl⟩ := Option.map_eq_some_iff.mp hw
        obtain ⟨written, hwritten, hreads⟩ := hsome ws hws
        exact ⟨written, hwritten, fun hzero rest b => run_decodeLayout (hreads hzero rest b)
          (Field.length_normals? hfits.2 hws)⟩
      · rw [if_neg hfits, if_neg hfits]
        exact ⟨fun _ b => ⟨_, rfl⟩, fun w h => (by cases h)⟩
    | _ => exact ⟨fun _ => hrefused (by rintro _ _ ⟨⟩), fun w h => (by cases h)⟩

/-! ## Both ways -/

/-- **Round trip**: bytes of a flat type whose truth values are zero or one are read as a value that is
written back, into any buffer, to just the places that the scalars take; and a value is written just if
it becomes something as the type, only to these places, and is read from there as what it becomes. -/
theorem flat_round_trip {d : Descriptor} (hd : d.Flat) (ctx : ContextId) (index : Nat)
    (out : List UInt8) (hout : d.size ≤ out.length) :
    (∀ bytes, d.size ≤ bytes.length → Truthful d.shape.scalars bytes →
      ∃ v written, written.length = out.length ∧
        (∀ i, written[i]? = if Covers d.shape.scalars i then bytes[i]? else out[i]?) ∧
        ∀ b, EStateM.run (decode ctx d bytes) b = .ok v b ∧
          EStateM.run (encode ctx index d out v) b = .ok (written, []) b) ∧
    (∀ v, d.shape.normal? v = none →
      ∀ b, ∃ e, EStateM.run (encode ctx index d out v) b = .error (.error e) b) ∧
    ∀ v w, d.shape.normal? v = some w →
      ∃ written, written.length = out.length ∧
        (∀ i, ¬Covers d.shape.scalars i → written[i]? = out[i]?) ∧
        ∀ b, EStateM.run (encode ctx index d out v) b = .ok (written, []) b ∧
          (Zeroed out → EStateM.run (decode ctx d written) b = .ok w b) := by
  refine ⟨fun bytes hbytes htruth => ?_, fun v hv => (settles_flat hd v hout).1 hv,
    fun v w hw => ?_⟩
  · have hrestores : Restores ctx index d := restores_flat hd
    obtain ⟨v, -, hread, hwrites⟩ := hrestores hbytes htruth
    obtain ⟨written, hwritten, hsame⟩ := hwrites hout
    refine ⟨v, written, hwritten.length, fun i => ?_, fun b => ⟨hread b, hwritten.run b⟩⟩
    split
    · next hi => exact hsame i hi
    · next hi => exact hwritten.apart i hi
  · obtain ⟨written, hwritten, hreads⟩ := (settles_flat hd v hout).2 w hw
    refine ⟨written, hwritten.length, hwritten.apart, fun b => ⟨hwritten.run b, fun hzero => ?_⟩⟩
    have hread := hreads hzero [] b
    rwa [List.append_nil] at hread

/-- A struct with padding before, inside and behind a nested one. -/
def padded : Descriptor :=
  .mk "{Outer=c{Inner=Bd}s}" (.aggregate (.ofFields "Outer" [(none, .scalar .char),
    (none, .mk "{Inner=Bd}" (.aggregate
      (.ofFields "Inner" [(none, .scalar .bool), (none, .scalar .double)]))),
    (none, .scalar .short)]))

lemma flat_padded : padded.Flat := by
  have hscalar {p : Primitive} (hvoid : p ≠ .void) (hfloat : p ≠ .float) :
      (Descriptor.scalar p).Flat := .scalar hvoid hfloat
  refine .struct fun f hf => ?_
  simp only [List.mem_cons, List.not_mem_nil, or_false] at hf
  rcases hf with rfl | rfl | rfl
  · exact hscalar (by decide) (by decide)
  · refine .struct fun f hf => ?_
    simp only [List.mem_cons, List.not_mem_nil, or_false] at hf
    rcases hf with rfl | rfl
    all_goals exact hscalar (by decide) (by decide)
  · exact hscalar (by decide) (by decide)

/-- Ones in every byte are read as the struct, and written back to all but the padding. -/
theorem flat_round_trip_padded :
    padded.Flat ∧ padded.size ≤ (List.replicate 32 0).length ∧
      ∃ v written, written.length = 32 ∧
        (∀ i, written[i]? =
          if Covers padded.shape.scalars i then (List.replicate 32 1)[i]?
          else (List.replicate 32 0)[i]?) ∧
        ∀ b, EStateM.run (decode 0 padded (List.replicate 32 1)) b = .ok v b ∧
          EStateM.run (encode 0 0 padded (List.replicate 32 0) v) b = .ok (written, []) b :=
  ⟨flat_padded, by decide,
    (flat_round_trip flat_padded 0 0 (List.replicate 32 0) (by decide)).1 (List.replicate 32 1)
      (by decide) (by decide)⟩

end Act

end MessageBridge
