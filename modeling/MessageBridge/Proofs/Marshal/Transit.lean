import MessageBridge.Proofs.Marshal.Arrives
import MessageBridge.Proofs.Text.Utf8

/-!
# Values in transit

A value that was written into a zeroed buffer is read as what it arrives as, not only at once but in
every state that record keeping leads to. For an address this is because what it points at stays where
it is, and for a struct because its fields do not overlap.

## Main definitions

* `Points` — an address leads to what a value arrives as.
* `Act.Holds` — from now on, bytes are read as what a value arrives as.
* `Act.Carries` — values that are written as a type are held by the bytes that are written.
* `Act.Fills` — what writing the fields of a struct one after another leaves in its bytes.

## Main results

* `Act.exists_points` — an address that was written for a value leads to it.
* `Act.exists_arrives_of_points` — and is read so.
* `Act.keepsLength_laid` — a buffer is as long as before when a value was written into it.
* `Act.fills_encodeFields` — what was written for one field of a struct is there in the end.
* `Act.carries_plain` — every plain type carries its values.
-/

namespace MessageBridge

/-! ## Addresses -/

/-- **Points**: an address that was passed for a value leads to what the value arrives as. -/
inductive Points (ctx : ContextId) (b : Bridge) : Shape → Value → Address → Prop
  | address {s : Shape} {v : Value} {a : Address} (hv : v.address? = some a)
      (h : a ≠ 0 → b.CanRead ctx s a) : Points ctx b s v a
  | selector {v : Value} {name : String} {sel : Selector} (hv : v.toText? = some name)
      (h : b.space.selectors.Knows name sel) : Points ctx b .selector v sel.address
  | text {text : String} {a : Address} (ha : a ≠ 0)
      (h : b.space.readString? a = some (Text.toUtf8 text)) : Points ctx b .cString (.str text) a
  | storedText {n : Nat} {text : String} {a : Address} (ha : a ≠ 0)
      (h : b.space.readString? a = some (Text.toUtf8 text)) :
      Points ctx b (.pointer n none) (.str text) a
  | storedStruct {n : Nat} {layout : Layout} {vs : List Value} {a : Address} (ha : a ≠ 0) :
      Points ctx b (.pointer n none) (.struct layout vs) a

lemma Points.mono {ctx : ContextId} {b b' : Bridge} {s : Shape} {v : Value} {a : Address}
    (hkeeps : b.Keeps b') (h : Points ctx b s v a) : Points ctx b' s v a := by
  cases h with
  | address hv h => exact .address hv fun ha => (h ha).mono hkeeps
  | selector hv h => exact .selector hv (h.extends hkeeps.selectors)
  | text ha h => exact .text ha (hkeeps.texts h)
  | storedText ha h => exact .storedText ha (hkeeps.texts h)
  | storedStruct ha => exact .storedStruct ha

namespace Act

variable {ctx : ContextId} {index : Nat} {b b' : Bridge}

/-! ## Writing addresses -/

/-- A context remembers a selector under its name, or gets the one of the table. -/
lemma knows_selector {name : String} {sel : Selector} (hb : b.Sound)
    (h : EStateM.run (selector ctx name) b = .ok sel b') :
    b'.space.selectors.Knows name sel := by
  unfold selector at h
  rw [run_bind_ok (run_context ctx)] at h
  split at h
  · next hlookup =>
    cases h
    obtain ⟨l₁, l₂, hmem, -⟩ := List.lookup_eq_some_iff.mp hlookup
    exact hb.selectors ctx (name, sel) (by rw [hmem]; simp)
  · obtain ⟨_, b₁, hcheck, h⟩ := run_bind_eq_ok.mp h
    obtain ⟨sel', b₂, hintern, h⟩ := run_bind_eq_ok.mp h
    obtain ⟨rfl, rfl, hroom⟩ := run_intern_eq_ok.mp hintern
    cases h
    exact ⟨SelectorTable.index_intern_lt _ name, SelectorTable.name_intern _ name, hroom⟩

lemma run_keepBlock_eq_ok {size : Nat} {bytes : List UInt8} {a : Address}
    (h : EStateM.run (keepBlock size bytes) b = .ok a b') :
    ∃ memory, b.space.memory.allocate size bytes = some (a, memory) ∧
      b' = { b with space := { b.space with memory } } := by
  unfold keepBlock tryOnSpace at h
  obtain ⟨r, b₁, hr, h⟩ := run_bind_eq_ok.mp h
  obtain ⟨hr, rfl⟩ := run_readSpace_eq_ok.mp hr
  obtain ⟨⟨a', memory⟩, hallocate, rfl⟩ := Option.map_eq_some_iff.mp hr
  cases h
  exact ⟨memory, hallocate, rfl⟩

/-- A text that was stored can be read. -/
lemma readString?_keepString {text : String} {a : Address} (hb : b.Sound)
    (h : EStateM.run (keepString text) b = .ok a b') :
    a ≠ 0 ∧ b'.space.readString? a = some (Text.toUtf8 text) := by
  unfold keepString at h
  obtain ⟨_, b₁, hcheck, h⟩ := run_bind_eq_ok.mp h
  unfold checkName at hcheck
  split at hcheck
  · cases hcheck
  · next hnul =>
    cases hcheck
    obtain ⟨memory, hallocate, rfl⟩ := run_keepBlock_eq_ok h
    refine ⟨hb.memory.ne_zero_of_allocate hallocate, ?_⟩
    exact Memory.readString?_allocate hallocate (Nat.lt_succ_self _) fun x hx =>
      Text.ne_zero_of_mem_toUtf8 (by simpa using hnul) hx

lemma ne_zero_of_keepBlock {size : Nat} {bytes : List UInt8} {a : Address} (hb : b.Sound)
    (h : EStateM.run (keepBlock size bytes) b = .ok a b') : a ≠ 0 := by
  obtain ⟨memory, hallocate, rfl⟩ := run_keepBlock_eq_ok h
  exact hb.memory.ne_zero_of_allocate hallocate

/-- **An address** that was written for a value leads to it. -/
lemma exists_points {encoding : String} {s : Shape} {out : List UInt8} {v : Value}
    {r : List UInt8 × List Address} (hs : s.isAddress = true)
    (hl : (Descriptor.mk encoding s).layout? = none) (hb : b.Sound) (hv : Readable ctx b s v)
    (h : EStateM.run (encode ctx index (.mk encoding s) out v) b = .ok r b') :
    ∃ a, r.1 = writeWord out a ∧ Points ctx b' s v a := by
  have hread (a : Address) (hav : v.address? = some a) : a ≠ 0 → b.CanRead ctx s a := by
    intro ha
    cases hv with
    | nil =>
      cases hav
      exact absurd rfl ha
    | scalar => cases hs
    | address _ hv => exact hv a hav ha
    | struct => cases hs
  unfold encode at h
  simp only [Descriptor.shape] at h
  cases s with
  | scalar | aggregate => cases hs
  | object | classRef =>
    cases v with
    | nil | pointer | object =>
      cases h
      exact ⟨_, rfl, .address rfl (hread _ rfl)⟩
    | bool | int | uint | float | selector | str | struct => cases h
  | selector =>
    cases v with
    | nil | pointer =>
      cases h
      exact ⟨_, rfl, .address rfl (hread _ rfl)⟩
    | selector | str =>
      obtain ⟨sel, b₁, hsel, h⟩ := run_bind_eq_ok.mp h
      cases h
      exact ⟨_, rfl, .selector rfl (knows_selector hb hsel)⟩
    | bool | int | uint | float | object | struct => cases h
  | cString =>
    cases v with
    | nil | pointer =>
      cases h
      exact ⟨_, rfl, .address rfl (hread _ rfl)⟩
    | str =>
      obtain ⟨a, b₁, ha, h⟩ := run_bind_eq_ok.mp h
      cases h
      obtain ⟨hne, htext⟩ := readString?_keepString hb ha
      exact ⟨_, rfl, .text hne htext⟩
    | bool | int | uint | float | object | selector | struct => cases h
  | pointer n layout =>
    obtain rfl : layout = none := hl
    cases v with
    | nil | pointer | object =>
      cases h
      exact ⟨_, rfl, .address rfl (hread _ rfl)⟩
    | str =>
      obtain ⟨a, b₁, ha, h⟩ := run_bind_eq_ok.mp h
      cases h
      obtain ⟨hne, htext⟩ := readString?_keepString hb ha
      exact ⟨_, rfl, .storedText hne htext⟩
    | struct layout vs =>
      obtain ⟨fields, b₁, hfields, h⟩ := run_bind_eq_ok.mp h
      obtain ⟨a, b₂, ha, h⟩ := run_bind_eq_ok.mp h
      cases h
      have hb₁ : b.Keeps b₁ :=
        Upkeep.keeps_of_run ((upkeep_encodeFields ctx index _ _ _ b).of_ok hfields) hb
      exact ⟨_, rfl, .storedStruct (ne_zero_of_keepBlock hb₁.sound ha)⟩
    | bool | int | uint | float | selector => cases h

/-! ## Reading -/

/-- **Holds**: from now on the bytes are read as what the value arrives as, when it was passed in the
state `b₀`. -/
def Holds (ctx : ContextId) (b₀ b : Bridge) (s : Shape) (bytes : List UInt8) (v : Value) : Prop :=
  ∀ b₁, b.Keeps b₁ → ∃ w b₂, EStateM.run (decodeShape ctx bytes s) b₁ = .ok w b₂ ∧
    Arrives ctx b₀ b₂ s v w

/-- The same for the fields of a struct. -/
def HoldsFields (ctx : ContextId) (b₀ b : Bridge) (fields : List Field) (bytes : List UInt8)
    (vs : List Value) : Prop :=
  ∀ b₁, b.Keeps b₁ → ∃ ws b₂, EStateM.run (decodeFields ctx bytes fields) b₁ = .ok ws b₂ ∧
    ArriveFields ctx b₀ b₂ fields vs ws

variable {b₀ : Bridge}

lemma Holds.mono {s : Shape} {bytes : List UInt8} {v : Value} (hkeeps : b.Keeps b')
    (h : Holds ctx b₀ b s bytes v) : Holds ctx b₀ b' s bytes v :=
  fun b₁ hb₁ => h b₁ (hkeeps.trans hb₁)

lemma keeps_of_decodeShape {bytes : List UInt8} {s : Shape} {w : Value} (hb : b.Sound)
    (h : EStateM.run (decodeShape ctx bytes s) b = .ok w b') : b.Keeps b' :=
  Upkeep.keeps_of_run ((upkeep_decodeShape ctx bytes s b).of_ok h) hb


/-- An address is read by its shape: as null, as an object, a selector or a text, or as it is. -/
lemma exists_arrives_of_address {s : Shape} {v : Value} {bytes : List UInt8}
    (hs : s.isAddress = true) (hl : (Descriptor.mk "" s).layout? = none)
    (hv : v.address? = some (ofWordBytes bytes))
    (h : ofWordBytes bytes ≠ 0 → b.CanRead ctx s (ofWordBytes bytes))
    (hctx : ctx < b.contexts.size) (hkeeps : b₀.Keeps b) :
    ∃ w b', EStateM.run (decodeShape ctx bytes s) b = .ok w b' ∧ Arrives ctx b₀ b' s v w := by
  generalize ha : ofWordBytes bytes = a at hv h
  have hobject (hs : s.isReference = true) (hread : a ≠ 0 →
      (b.current? ctx a).isSome ∨ (b.space.isClass? a).isSome) :
      ∃ w b', EStateM.run (return .ofObject? (← wrap ctx a) : Act Value) b = .ok w b' ∧
        Arrives ctx b₀ b' s v w := by
    rcases eq_or_ne a 0 with rfl | hne
    · refine ⟨.nil, b, ?_, .null ?_ hv⟩
      · unfold wrap
        rw [if_pos rfl]
        rfl
      · cases s <;> first | rfl | cases hs
    · obtain ⟨r, b', hr, hcurrent⟩ := exists_wrap hctx hne (hread hne)
      have hb' : b.Keeps b' := Upkeep.keeps_of_run ((upkeep_wrap ctx a).of_ok hr) hkeeps.sound
      refine ⟨.object r, b', ?_, .object hs hv hne hcurrent fun r' hr' => ?_⟩
      · rw [run_bind_ok hr]
        rfl
      · have hsame := (hkeeps.trans hb').refs hr'
        rw [hcurrent] at hsame
        exact Option.some.inj hsame
  cases s with
  | scalar | aggregate => cases hs
  | object | classRef =>
    unfold decodeShape
    rw [ha]
    exact hobject rfl h
  | selector =>
    unfold decodeShape
    simp only [ha]
    rcases eq_or_ne a 0 with rfl | hne
    · exact ⟨.nil, b, rfl, .null rfl hv⟩
    · obtain ⟨sel, hsel⟩ := Option.isSome_iff_exists.mp (h hne)
      refine ⟨_, b, ?_, .selectorAt hv hne hsel⟩
      rw [if_neg hne, run_bind_ok (run_readSpace_eq_ok.mpr ⟨hsel, rfl⟩)]
      rfl
  | cString =>
    unfold decodeShape
    simp only [ha]
    rcases eq_or_ne a 0 with rfl | hne
    · exact ⟨.nil, b, rfl, .null rfl hv⟩
    · obtain ⟨text, htext⟩ := Option.isSome_iff_exists.mp (h hne)
      refine ⟨_, b, ?_, .textAt hv hne htext⟩
      rw [if_neg hne, run_bind_ok (run_readSpace_eq_ok.mpr ⟨htext, rfl⟩)]
      rfl
  | pointer n layout =>
    obtain rfl : layout = none := hl
    unfold decodeShape
    simp only [ha]
    rcases eq_or_ne a 0 with rfl | hne
    · exact ⟨.nil, b, rfl, .null rfl hv⟩
    · rw [if_neg hne]
      exact ⟨.pointer a, b, rfl, .pointer hv hne⟩

/-- **An address that leads to a value** is read as what the value arrives as. -/
lemma exists_arrives_of_points {encoding : String} {s : Shape} {v : Value} {a : Address}
    {bytes : List UInt8} (hs : s.isAddress = true)
    (hl : (Descriptor.mk encoding s).layout? = none) (hbytes : ofWordBytes bytes = a)
    (h : Points ctx b s v a) (hctx : ctx < b.contexts.size) (hkeeps : b₀.Keeps b) :
    ∃ w b', EStateM.run (decodeShape ctx bytes s) b = .ok w b' ∧ Arrives ctx b₀ b' s v w := by
  cases h with
  | address hv h =>
    subst hbytes
    exact exists_arrives_of_address hs hl hv h hctx hkeeps
  | @selector v name sel hv h =>
    unfold decodeShape
    simp only [hbytes]
    refine ⟨.selector name, b, ?_, .selector hv⟩
    rw [if_neg h.address_ne_zero, run_bind_ok (run_readSpace_eq_ok.mpr ⟨h.ofAddress?, rfl⟩),
      run_bind_ok (run_fromSpace _), h.name]
    rfl
  | text ha h =>
    unfold decodeShape
    simp only [hbytes]
    refine ⟨_, b, ?_, .text⟩
    rw [if_neg ha, run_bind_ok (run_readSpace_eq_ok.mpr ⟨h, rfl⟩), Text.ofUtf8Lossy_toUtf8]
    rfl
  | storedText ha h =>
    unfold decodeShape
    simp only [hbytes]
    rw [if_neg ha]
    exact ⟨.pointer a, b, rfl, .storedText ha h⟩
  | storedStruct ha =>
    unfold decodeShape
    simp only [hbytes]
    rw [if_neg ha]
    exact ⟨.pointer a, b, rfl, .storedStruct ha⟩

/-! ## Carrying -/

/-- **Carries**: when a value is written as the type into a zeroed buffer, the buffer holds the value,
also with more bytes behind it. -/
def Carries (ctx : ContextId) (d : Descriptor) : Prop :=
  ∀ {index : Nat} {b₀ b b' : Bridge} {out : List UInt8} {v : Value} {r : List UInt8 × List Address},
    b₀.Keeps b → ctx < b.contexts.size → Readable ctx b d.shape v → d.size ≤ out.length →
      Zeroed out → EStateM.run (encode ctx index d out v) b = .ok r b' →
        r.1.length = out.length ∧ ∀ rest, Holds ctx b₀ b' d.shape (r.1 ++ rest) v

lemma keeps_of_encode {d : Descriptor} {out : List UInt8} {v : Value}
    {r : List UInt8 × List Address} (hb : b.Sound)
    (h : EStateM.run (encode ctx index d out v) b = .ok r b') : b.Keeps b' :=
  Upkeep.keeps_of_run ((upkeep_encode ctx index d out v b).of_ok h) hb

/-- Addresses are carried. -/
lemma carries_address {encoding : String} {s : Shape} (hs : s.isAddress = true)
    (hl : (Descriptor.mk encoding s).layout? = none) : Carries ctx (.mk encoding s) := by
  intro index b₀ b b' out v r hkeeps hctx hv hsize hzero h
  have hb' : b.Keeps b' := keeps_of_encode hkeeps.sound h
  have hword : (Descriptor.mk encoding s).size = wordSize := by cases s <;> first | rfl | cases hs
  obtain ⟨a, ha, hpoints⟩ := exists_points hs hl hkeeps.sound hv h
  rw [ha]
  refine ⟨length_overwriteBytes ?_, fun rest b₁ hb₁ => ?_⟩
  · rw [length_wordBytes]
    rw [hword] at hsize
    unfold wordSize at hsize
    omega
  · exact exists_arrives_of_points hs hl (ofWordBytes_writeWord out rest a) (hpoints.mono hb₁)
      (by rwa [hb₁.size, hb'.size]) ((hkeeps.trans hb').trans hb₁)

/-- Scalars are carried. -/
lemma carries_scalar {encoding : String} {p : Primitive} :
    Carries ctx (.mk encoding (.scalar p)) := by
  intro index b₀ b b' out v r hkeeps hctx hv hsize hzero h
  unfold encode at h
  simp only [Descriptor.shape] at h
  cases hp : p.encode? v with
  | none =>
    rw [hp] at h
    cases h
  | some bytes =>
    rw [hp] at h
    cases h
    have hlength := Primitive.length_of_encode? hp
    have hend : 0 + bytes.length ≤ out.length := by
      rw [hlength, Nat.zero_add]
      exact hsize
    refine ⟨length_overwriteBytes hend, fun rest b₁ hb₁ => ?_⟩
    simp only [overwriteBytes, List.take_zero, List.nil_append, List.append_assoc]
    unfold decodeShape
    exact ⟨_, b₁, rfl, .scalar (Primitive.decode_of_encode? hp _)⟩

/-! ## Zero bytes -/

/-- **Reads**: the bytes are read as the value in every state, which stays as it is. -/
def Reads (ctx : ContextId) (bytes : List UInt8) (s : Shape) (w : Value) : Prop :=
  ∀ b, EStateM.run (decodeShape ctx bytes s) b = .ok w b

/-- The same for the fields of a struct. -/
def ReadsFields (ctx : ContextId) (bytes : List UInt8) (fields : List Field) (ws : List Value) :
    Prop :=
  ∀ b, EStateM.run (decodeFields ctx bytes fields) b = .ok ws b

/-- The fields of a struct are read one after another. -/
lemma run_decodeFields_cons {bytes : List UInt8} {name : Option String} {offset : Nat} {d : Descriptor}
    {fields : List Field} {w : Value} {ws : List Value} {b'' : Bridge}
    (h : EStateM.run (decodeShape ctx (sliceBytes bytes offset d.size) d.shape) b = .ok w b')
    (hs : EStateM.run (decodeFields ctx bytes fields) b' = .ok ws b'') :
    EStateM.run (decodeFields ctx bytes (.mk name offset d :: fields)) b = .ok (w :: ws) b'' := by
  obtain ⟨encoding, shape⟩ := d
  have hfield : EStateM.run (decodeShape ctx (sliceBytes bytes offset shape.size) shape) b =
      .ok w b' := h
  unfold decodeFields
  rw [run_bind_ok hfield, run_bind_ok hs]
  rfl

lemma Reads.cons {bytes : List UInt8} {name : Option String} {offset : Nat} {d : Descriptor}
    {fields : List Field} {w : Value} {ws : List Value}
    (h : Reads ctx (sliceBytes bytes offset d.size) d.shape w)
    (hs : ReadsFields ctx bytes fields ws) :
    ReadsFields ctx bytes (.mk name offset d :: fields) (w :: ws) :=
  fun b => run_decodeFields_cons (h b) (hs b)

/-- As many values as there are fields are a struct as they stand. -/
lemma run_decodeLayout {bytes : List UInt8} {name : String}
    {fields : List (Option String × Descriptor)} {ws : List Value}
    (h : EStateM.run (decodeFields ctx bytes (Layout.place 0 fields).1) b = .ok ws b')
    (hlength : ws.length = (Layout.place 0 fields).1.length) :
    EStateM.run (decodeShape ctx bytes (.aggregate (.ofFields name fields))) b =
      .ok (.struct (.ofFields name fields) ws) b' := by
  have hcount : (Layout.ofFields name fields).fields.length = ws.length := hlength.symm
  have hvalue : Value.ofFields (.ofFields name fields) ws = .struct (.ofFields name fields) ws := by
    rw [Value.ofFields, hcount, List.take_length, Nat.sub_self, List.replicate_zero,
      List.append_nil]
  rw [← hvalue]
  unfold decodeShape
  exact (run_bind_ok h).trans rfl

/-- Zero bytes are zero in every field. -/
lemma readsFields_zero {fields : List (Option String × Descriptor)}
    (hfields : ∀ f ∈ fields, ∀ rest,
      Reads ctx (List.replicate f.2.size 0 ++ rest) f.2.shape f.2.shape.zero)
    (start : Nat) {n : Nat} (hstop : (Layout.place start fields).2 ≤ n) (rest : List UInt8) :
    ReadsFields ctx (List.replicate n 0 ++ rest) (Layout.place start fields).1
      (Field.zeros (Layout.place start fields).1) := by
  induction fields generalizing start with
  | nil => exact fun _ => rfl
  | cons f fields ih =>
    obtain ⟨name, d⟩ := f
    rw [Layout.place_cons] at hstop ⊢
    have hend := Layout.le_place (roundUp start d.alignment + d.size) fields
    have hslice : sliceBytes (List.replicate n 0 ++ rest) (roundUp start d.alignment) d.size =
        List.replicate d.size 0 := by
      rw [sliceBytes_append (by rw [List.length_replicate]; simp only at hstop; omega), sliceBytes,
        List.drop_replicate, List.take_replicate]
      congr 1
      simp only at hstop
      omega
    have hfield : Reads ctx (List.replicate d.size 0) d.shape d.shape.zero := by
      simpa using hfields (name, d) (List.mem_cons_self ..) []
    have hrest := ih (fun f hf => hfields f (List.mem_cons_of_mem _ hf)) _ hstop
    rw [← hslice] at hfield
    obtain ⟨encoding, shape⟩ := d
    exact hfield.cons hrest

/-- **Zero bytes** are read as zero. -/
lemma reads_zero {d : Descriptor} (hd : d.Laid) (rest : List UInt8) :
    Reads ctx (List.replicate d.size 0 ++ rest) d.shape d.shape.zero := by
  induction hd generalizing rest with
  | scalar hp =>
    intro b
    simp only [Descriptor.shape, Descriptor.size, Shape.size, decodeShape, Shape.zero,
      Primitive.decode_zero hp]
    rfl
  | @address encoding s hs hl =>
    intro b
    have hword : ofWordBytes (List.replicate wordSize 0 ++ rest) = 0 :=
      ofWordBytes_wordBytes_append 0 rest
    have hnull : EStateM.run (wrap ctx 0) b = .ok none b := by
      unfold wrap
      rw [if_pos rfl]
      rfl
    cases s with
    | scalar | aggregate => cases hs
    | object | classRef =>
      simp only [Descriptor.shape, Descriptor.size, Shape.size, decodeShape, Shape.zero, hword]
      rw [run_bind_ok hnull]
      rfl
    | selector | cString =>
      simp only [Descriptor.shape, Descriptor.size, Shape.size, decodeShape, Shape.zero, hword,
        if_true]
      rfl
    | pointer n layout =>
      obtain rfl : layout = none := hl
      simp only [Descriptor.shape, Descriptor.size, Shape.size, decodeShape, Shape.zero, hword,
        if_true]
      rfl
  | pointee =>
    intro b
    have hword : ofWordBytes (List.replicate wordSize 0 ++ rest) = 0 :=
      ofWordBytes_wordBytes_append 0 rest
    simp only [Descriptor.shape, Descriptor.size, Shape.size, decodeShape, Shape.zero, hword, if_true]
    rfl
  | @struct encoding name fields _ ih =>
    intro b
    exact run_decodeLayout (readsFields_zero ih 0 (Layout.place_le_size fields name) rest b)
      (Field.length_zeros _)

/-! ## Fields of a struct -/

lemma Holds.cons {bytes : List UInt8} {name : Option String} {offset : Nat} {d : Descriptor}
    {fields : List Field} {v : Value} {vs : List Value}
    (h : Holds ctx b₀ b d.shape (sliceBytes bytes offset d.size) v)
    (hs : HoldsFields ctx b₀ b fields bytes vs) :
    HoldsFields ctx b₀ b (.mk name offset d :: fields) bytes (v :: vs) := by
  intro b₁ hb₁
  obtain ⟨w, b₂, hw, harrives⟩ := h b₁ hb₁
  have hb₂ : b₁.Keeps b₂ := keeps_of_decodeShape hb₁.sound hw
  obtain ⟨ws, b₃, hws, harrive⟩ := hs b₂ (hb₁.trans hb₂)
  have hb₃ : b₂.Keeps b₃ :=
    Upkeep.keeps_of_run ((upkeep_decodeFields ctx bytes fields b₂).of_ok hws) hb₂.sound
  exact ⟨w :: ws, b₃, run_decodeFields_cons hw hws, .cons (harrives.mono hb₃) harrive⟩

/-- Writes one field of a struct. -/
def encodeField (ctx : ContextId) (index : Nat) (f : Field) (out : List UInt8) (v : Value) :
    Act (List UInt8 × List Address) :=
  if v.isNil && f.descriptor.shape.isInline then pure (out, [])
  else do
    let (bytes, blocks) ← encode ctx index f.descriptor
      (sliceBytes out f.offset f.descriptor.size) v
    pure (overwriteBytes out f.offset bytes, blocks)

/-- The fields of a struct are written one after another. -/
lemma encodeFields_cons (f : Field) (fields : List Field) (out : List UInt8) (v : Value)
    (vs : List Value) : encodeFields ctx index (f :: fields) out (v :: vs) = do
      let (out, blocks) ← encodeField ctx index f out v
      let (out, more) ← encodeFields ctx index fields out vs
      return (out, blocks ++ more) := by
  conv_lhs => unfold encodeFields
  unfold encodeField
  by_cases hskip : (v.isNil && f.descriptor.shape.isInline) = true
  · simp only [hskip, if_true, pure_bind]
  · simp only [hskip, Bool.false_eq_true, if_false, bind_assoc, pure_bind]

/-! ## Filling a struct -/

/-- **Keeps the length**: where a value is written as the type into a zeroed buffer, as many bytes come
back. -/
def KeepsLength (ctx : ContextId) (d : Descriptor) : Prop :=
  ∀ {index : Nat} {b b' : Bridge} {out : List UInt8} {v : Value} {r : List UInt8 × List Address},
    d.size ≤ out.length → Zeroed out → EStateM.run (encode ctx index d out v) b = .ok r b' →
      r.1.length = out.length

/-- **Fills**: the bytes of each field are those of its value, written into zeros one after another. Nil
may not be written at all, and the zeros are there. -/
inductive Fills (ctx : ContextId) (index : Nat) (bytes : List UInt8) :
    List Field → List Value → Bridge → Bridge → Prop
  | nil {b : Bridge} : Fills ctx index bytes [] [] b b
  | skip {f : Field} {fields : List Field} {vs : List Value} {b b' : Bridge}
      (hinline : f.descriptor.shape.isInline = true)
      (hzero : sliceBytes bytes f.offset f.descriptor.size = List.replicate f.descriptor.size 0)
      (hrest : Fills ctx index bytes fields vs b b') :
      Fills ctx index bytes (f :: fields) (.nil :: vs) b b'
  | write {f : Field} {fields : List Field} {v : Value} {vs : List Value} {blocks : List Address}
      {b b₁ b' : Bridge}
      (h : EStateM.run (encode ctx index f.descriptor (List.replicate f.descriptor.size 0) v) b =
        .ok (sliceBytes bytes f.offset f.descriptor.size, blocks) b₁)
      (hrest : Fills ctx index bytes fields vs b₁ b') :
      Fills ctx index bytes (f :: fields) (v :: vs) b b'

lemma Fills.upkeep {bytes : List UInt8} {fields : List Field} {vs : List Value}
    (h : Fills ctx index bytes fields vs b b') : Relation.ReflTransGen Upkeep b b' := by
  induction h with
  | nil => exact .refl
  | skip _ _ _ ih => exact ih
  | write h _ ih => exact ((upkeep_encode ctx index _ _ _ _).of_ok h).trans ih

/-- Writing one field of a struct leaves alone all bytes around it. -/
lemma exists_of_encodeField {name : Option String} {d : Descriptor} {offset : Nat}
    {out : List UInt8} {v : Value} {r : List UInt8 × List Address} (hd : KeepsLength ctx d)
    (hend : offset + d.size ≤ out.length) (hzero : Zeroed (out.drop offset))
    (h : EStateM.run (encodeField ctx index (.mk name offset d) out v) b = .ok r b') :
    r.1.length = out.length ∧ r.1.take offset = out.take offset ∧
      r.1.drop (offset + d.size) = out.drop (offset + d.size) ∧
        (v = .nil ∧ d.shape.isInline = true ∧ b' = b ∧
            sliceBytes r.1 offset d.size = List.replicate d.size 0 ∨
          ∃ blocks, EStateM.run (encode ctx index d (List.replicate d.size 0) v) b =
            .ok (sliceBytes r.1 offset d.size, blocks) b') := by
  have hlength : (sliceBytes out offset d.size).length = d.size := length_sliceBytes hend
  have hslice : Zeroed (sliceBytes out offset d.size) := hzero.take _
  have hfield : encodeField ctx index (.mk name offset d) out v =
      if v.isNil && d.shape.isInline then pure (out, [])
      else encode ctx index d (sliceBytes out offset d.size) v >>= fun r =>
        pure (overwriteBytes out offset r.1, r.2) := rfl
  rw [hfield] at h
  by_cases hskip : (v.isNil && d.shape.isInline) = true
  · obtain ⟨hnil, hinline⟩ := Bool.and_eq_true_iff.mp hskip
    rw [if_pos hskip] at h
    cases h
    have hv : v = .nil := by cases v <;> first | rfl | cases hnil
    exact ⟨rfl, rfl, rfl, .inl ⟨hv, hinline, rfl, by rw [hslice.eq_replicate, hlength]⟩⟩
  · rw [if_neg hskip] at h
    obtain ⟨⟨bytes, blocks⟩, b₁, hencode, h⟩ := run_bind_eq_ok.mp h
    cases h
    have hbytes : bytes.length = d.size := (hd (Nat.le_of_eq hlength.symm) hslice hencode).trans hlength
    rw [hslice.eq_replicate, hlength] at hencode
    rw [← hbytes] at hend hencode ⊢
    refine ⟨length_overwriteBytes hend, take_overwriteBytes hend, drop_overwriteBytes hend,
      .inr ⟨blocks, ?_⟩⟩
    rw [sliceBytes_overwriteBytes hend]
    exact hencode

/-- **Filling a struct**: its fields are written one behind the other, and what was written for one is
still there when the others have been written. -/
lemma fills_encodeFields {fields : List (Option String × Descriptor)}
    (hfields : ∀ f ∈ fields, KeepsLength ctx f.2) (start : Nat) {out : List UInt8} {vs : List Value}
    {r : List UInt8 × List Address} (hcount : vs.length = fields.length)
    (hstop : (Layout.place start fields).2 ≤ out.length) (hzero : Zeroed (out.drop start))
    (h : EStateM.run (encodeFields ctx index (Layout.place start fields).1 out vs) b = .ok r b') :
    r.1.length = out.length ∧ r.1.take start = out.take start ∧
      ∀ rest, Fills ctx index (r.1 ++ rest) (Layout.place start fields).1 vs b b' := by
  induction fields generalizing start out vs r b with
  | nil =>
    obtain rfl := List.length_eq_zero_iff.mp hcount
    unfold encodeFields at h
    cases h
    exact ⟨rfl, rfl, fun _ => .nil⟩
  | cons f fields ih =>
    obtain ⟨name, d⟩ := f
    rw [Layout.place_cons] at hstop h ⊢
    have hstart := le_roundUp start d.alignment
    have hle := Layout.le_place (roundUp start d.alignment + d.size) fields
    generalize roundUp start d.alignment = offset at hstop h hstart hle ⊢
    obtain ⟨hd, hfields⟩ := List.forall_mem_cons.mp hfields
    simp only at hstop h hd ⊢
    cases vs with
    | nil => cases hcount
    | cons v vs =>
      have hzero' : Zeroed (out.drop offset) := by
        have := hzero.drop (offset - start)
        rwa [List.drop_drop, Nat.add_sub_cancel' hstart] at this
      rw [encodeFields_cons] at h
      obtain ⟨⟨out₁, blocks₁⟩, b₁, hhead, h⟩ := run_bind_eq_ok.mp h
      obtain ⟨⟨out₂, blocks₂⟩, b₂, htail, h⟩ := run_bind_eq_ok.mp h
      cases h
      obtain ⟨hlength₁, htake₁, hdrop₁, hfield⟩ :=
        exists_of_encodeField hd (by omega) hzero' hhead
      simp only at hlength₁ htake₁ hdrop₁ hfield
      have hzero₁ : Zeroed (out₁.drop (offset + d.size)) := by
        rw [hdrop₁, ← List.drop_drop]
        exact hzero'.drop _
      obtain ⟨hlength₂, htake₂, hfills⟩ := ih hfields (offset + d.size) (Nat.succ.inj hcount)
        (by rw [hlength₁]; exact hstop) hzero₁ htail
      simp only at hlength₂ htake₂ hfills
      refine ⟨hlength₂.trans hlength₁, ?_, fun rest => ?_⟩
      · have h₁ := congrArg (List.take start) htake₁
        have h₂ := congrArg (List.take start) htake₂
        rw [List.take_take, List.take_take, Nat.min_eq_left (by omega)] at h₁ h₂
        exact h₂.trans h₁
      · -- the bytes of this field are before those of the others, which leave them as they are
        have hslice : sliceBytes (out₂ ++ rest) offset d.size = sliceBytes out₁ offset d.size := by
          rw [sliceBytes_append (by omega), sliceBytes_congr htake₂ (Nat.le_refl _)]
        rw [← hslice] at hfield
        rcases hfield with ⟨rfl, hinline, rfl, hskip⟩ | ⟨blocks, hwrite⟩
        · exact .skip hinline hskip (hfills rest)
        · exact .write hwrite (hfills rest)

/-- An address is written as one word. -/
lemma exists_writeWord {encoding : String} {s : Shape} {out : List UInt8} {v : Value}
    {r : List UInt8 × List Address} (hs : s.isAddress = true)
    (h : EStateM.run (encode ctx index (.mk encoding s) out v) b = .ok r b') :
    ∃ a, r.1 = writeWord out a := by
  unfold encode at h
  simp only [Descriptor.shape] at h
  split at h
  case h_1 | h_2 | h_3 => cases hs
  case h_4 | h_5 | h_6 | h_7 | h_8 =>
    cases h
    exact ⟨_, rfl⟩
  case h_9 | h_10 | h_11 | h_12 =>
    obtain ⟨_, b₁, -, h⟩ := run_bind_eq_ok.mp h
    cases h
    exact ⟨_, rfl⟩
  case h_13 =>
    obtain ⟨_, b₁, -, h⟩ := run_bind_eq_ok.mp h
    obtain ⟨_, b₂, -, h⟩ := run_bind_eq_ok.mp h
    cases h
    exact ⟨_, rfl⟩
  case h_14 => cases h

lemma keepsLength_address {encoding : String} {s : Shape} (hs : s.isAddress = true) :
    KeepsLength ctx (.mk encoding s) := by
  intro index b b' out v r hsize _ h
  have hword : (Descriptor.mk encoding s).size = wordSize := by cases s <;> first | rfl | cases hs
  obtain ⟨a, ha⟩ := exists_writeWord hs h
  rw [ha]
  refine length_overwriteBytes ?_
  rw [length_wordBytes]
  rw [hword] at hsize
  unfold wordSize at hsize
  omega

/-- **The length** of the buffer is kept by every type whose structs are laid out by the C rules. -/
theorem keepsLength_laid {d : Descriptor} (hd : d.Laid) : KeepsLength ctx d := by
  induction hd with
  | @scalar encoding p =>
    intro index b b' out v r hsize _ h
    unfold encode at h
    simp only [Descriptor.shape] at h
    cases hp : p.encode? v with
    | none =>
      rw [hp] at h
      cases h
    | some bytes =>
      rw [hp] at h
      cases h
      exact length_overwriteBytes (by rw [Primitive.length_of_encode? hp, Nat.zero_add]; exact hsize)
  | address hs => exact keepsLength_address hs
  | pointee => exact keepsLength_address rfl
  | @struct encoding name fields _ ih =>
    intro index b b' out v r hsize hzero h
    unfold encode at h
    simp only [Descriptor.shape] at h
    cases v with
    | struct layout vs =>
      simp only at h
      split at h
      · next hfits =>
        have hcount : vs.length = fields.length :=
          hfits.2.symm.trans (Layout.length_fields_ofFields name fields)
        exact (fills_encodeFields ih 0 hcount
          (Nat.le_trans (Layout.place_le_size fields name) hsize) hzero h).1
      · cases h
    | nil | bool | int | uint | float | object | selector | str | pointer => cases h

/-! ## Structs -/

/-- The fields of a struct whose bytes were filled hold their values. -/
lemma holdsFields_of_fills {fields : List Field} {bytes : List UInt8} {vs : List Value}
    (hfields : ∀ f ∈ fields, f.descriptor.Plain ∧ Carries ctx f.descriptor) (hkeeps : b₀.Keeps b)
    (hctx : ctx < b.contexts.size) (hv : ReadableFields ctx b fields vs)
    (h : Fills ctx index bytes fields vs b b') : HoldsFields ctx b₀ b' fields bytes vs := by
  induction h with
  | nil => exact fun b₁ _ => ⟨[], b₁, rfl, .nil⟩
  | @skip f fields vs b b' hinline hzero hrest ih =>
    obtain ⟨name, offset, d⟩ := f
    obtain ⟨⟨hd, -⟩, hfields⟩ := List.forall_mem_cons.mp hfields
    cases hv with
    | cons _ hvs =>
      refine Holds.cons (fun b₁ _ => ⟨d.shape.zero, b₁, ?_, .zero hinline⟩) (ih hfields hkeeps hctx hvs)
      have hreads : Reads ctx (List.replicate d.size 0 ++ []) d.shape d.shape.zero :=
        reads_zero hd.laid []
      have hslice : sliceBytes bytes offset d.size = List.replicate d.size 0 := hzero
      rw [List.append_nil, ← hslice] at hreads
      exact hreads b₁
  | @write f fields v vs blocks b b₁ b' hwrite hrest ih =>
    obtain ⟨name, offset, d⟩ := f
    obtain ⟨⟨-, hcarries⟩, hfields⟩ := List.forall_mem_cons.mp hfields
    cases hv with
    | cons hv hvs =>
      have hb₁ : b.Keeps b₁ := keeps_of_encode hkeeps.sound hwrite
      obtain ⟨-, hholds⟩ := hcarries hkeeps hctx hv (by simp) (.replicate _) hwrite
      have hfield := (hholds []).mono (Upkeep.keeps_of_run hrest.upkeep hb₁.sound)
      rw [List.append_nil] at hfield
      exact hfield.cons (ih hfields (hkeeps.trans hb₁) (by rwa [hb₁.size]) (hvs.mono hb₁))

/-- **Every plain type** carries its values. -/
theorem carries_plain {d : Descriptor} (hd : d.Plain) : Carries ctx d := by
  induction hd with
  | scalar => exact carries_scalar
  | address hs hl => exact carries_address hs hl
  | @struct encoding name fields hplain ih =>
    intro index b₀ b b' out v r hkeeps hctx hv hsize hzero h
    refine ⟨keepsLength_laid (Descriptor.Plain.struct hplain).laid hsize hzero h, fun rest => ?_⟩
    unfold encode at h
    simp only [Descriptor.shape] at h
    cases hv with
    | address hs => cases hs
    | nil => cases h
    | @struct _ layout vs hvs =>
      simp only at h
      split at h
      · next hfits =>
        have hcount : vs.length = fields.length :=
          hfits.2.symm.trans (Layout.length_fields_ofFields name fields)
        obtain ⟨-, -, hfills⟩ := fills_encodeFields
          (fun f hf => keepsLength_laid (hplain f hf).laid) 0 hcount
          (Nat.le_trans (Layout.place_le_size fields name) hsize) hzero h
        have hfields : ∀ f ∈ (Layout.place 0 fields).1, f.descriptor.Plain ∧ Carries ctx f.descriptor :=
          fun f hf =>
            have hmem := (Layout.mem_place 0 fields hf).2.2
            ⟨hplain _ hmem, ih _ hmem⟩
        have hholds := holdsFields_of_fills hfields hkeeps hctx hvs (hfills rest)
        intro b₁ hb₁
        obtain ⟨ws, b₂, hws, harrive⟩ := hholds b₁ hb₁
        exact ⟨_, b₂, run_decodeLayout hws harrive.length_eq, .struct harrive⟩
      · cases h

end Act

end MessageBridge
