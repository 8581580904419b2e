import MessageBridge.Proofs.Bridge.Types
import MessageBridge.Proofs.Encoding.Outline

/-!
# Loading layouts

A translation that meets a struct of an unknown layout loads it from the metadata: it registers the
encoding that the metadata gives, and starts again. Registering an encoding is a translation too, so
that loads can be nested.

## Main definitions

* `Bridge.translatorAt`, `Bridge.encodingOf?` — the layouts that a context knows, and the encodings
  that its metadata gives.
* `Bridge.learn` — the state after a layout was registered.

## Main results

* `Act.run_retrying_of_missing` — what is done about a missing layout.
* `Act.run_registerWithin` — how a registration ends.
-/

namespace MessageBridge

namespace Bridge

variable {b : Bridge} {ctx : ContextId} {name e : String}

/-- The layouts that a context knows. -/
def translatorAt (b : Bridge) (ctx : ContextId) : Translator := (b.contextAt ctx).translator

/-- The encoding that the metadata of a context gives for a struct. -/
def encodingOf? (b : Bridge) (ctx : ContextId) (name : String) : Option String :=
  (b.contextAt ctx).sources.findSome? (·.struct? name)

/-- The structs that the metadata of a context describes, with their encodings. -/
def entries (b : Bridge) (ctx : ContextId) : List (String × String) :=
  (b.contextAt ctx).sources.flatMap (·.structs)

lemma mem_entries_of_encodingOf? (h : b.encodingOf? ctx name = some e) :
    (name, e) ∈ b.entries ctx := by
  obtain ⟨source, hsource, he⟩ := List.exists_of_findSome?_eq_some h
  obtain ⟨front, back, heq, -⟩ := List.lookup_eq_some_iff.mp he
  exact List.mem_flatMap.mpr ⟨source, hsource, by rw [heq]; simp⟩

/-- **Learning**: the state after a layout was registered in a context. -/
def learn (b : Bridge) (ctx : ContextId) (l : Layout) : Bridge :=
  { b with contexts :=
      b.contexts.modify ctx fun c => { c with translator := c.translator.insert l } }

/-- A context with metadata is there. -/
lemma lt_size_of_encodingOf? (h : b.encodingOf? ctx name = some e) : ctx < b.contexts.size := by
  by_contra hsize
  have hnone : b.contextAt ctx = default := by
    rw [contextAt, Array.getElem?_eq_none (Nat.le_of_not_lt hsize), Option.getD_none]
  rw [encodingOf?, hnone] at h
  cases h

lemma translatorAt_learn (h : ctx < b.contexts.size) (l : Layout) :
    (b.learn ctx l).translatorAt ctx = (b.translatorAt ctx).insert l := by
  rw [translatorAt, learn, contextAt_modify_self h, ← translatorAt]

/-- Learning does not change the metadata. -/
lemma sources_learn (b : Bridge) (ctx : ContextId) (l : Layout) :
    ((b.learn ctx l).contextAt ctx).sources = (b.contextAt ctx).sources :=
  b.view_contextAt_modify Context.sources (fun _ => by rfl) ctx ctx

@[simp] lemma encodingOf?_learn (l : Layout) :
    (b.learn ctx l).encodingOf? ctx = b.encodingOf? ctx := by
  funext name
  rw [encodingOf?, sources_learn, encodingOf?]

end Bridge

namespace Act

variable {α : Type} {b b' : Bridge} {ctx : ContextId} {register : String → Act Layout}
  {f : Translator → Except Error α} {name e : String}

@[simp] lemma run_structEncoding? (name : String) :
    EStateM.run (structEncoding? ctx name) b = .ok (b.encodingOf? ctx name) b := rfl

/-- Loads can be nested as deep as the square of one more than the number of entries. -/
lemma run_loadingDepth :
    EStateM.run (loadingDepth ctx) b =
      .ok (((b.entries ctx).length + 1) * ((b.entries ctx).length + 1)) b := by
  have hcount (sources : List Metadata) (n : Nat) :
      sources.foldl (fun n source => n + source.structs.length) n =
        n + (sources.flatMap (·.structs)).length := by
    induction sources generalizing n with
    | nil => rfl
    | cons source sources ih => simp [ih, Nat.add_assoc]
  change EStateM.Result.ok _ b = _
  rw [hcount, Nat.zero_add, Bridge.entries, Bridge.contextAt]

/-- **A missing layout** whose encoding the metadata gives is registered, and the translation starts
again. -/
lemma run_retrying_of_missing (hf : f (b.translatorAt ctx) = .error (.unknownAggregate name))
    (he : b.encodingOf? ctx name = some e) (lookups : Nat) :
    EStateM.run (retrying register ctx f (lookups + 1)) b =
      EStateM.run (register e >>= fun _ => retrying register ctx f lookups) b := by
  unfold Bridge.translatorAt at hf
  rw [retrying, run_bind_ok (run_context ctx), hf]
  simp only
  rw [run_bind_ok (run_structEncoding? name), he]

/-- A registration is a translation, and then the layout is known. -/
lemma run_registerWithin (depth : Nat) :
    EStateM.run (registerWithin ctx (depth + 1) e) b =
      EStateM.run (retrying (registerWithin ctx depth) ctx (·.structLayout e) maxStructLookups >>=
        fun l => do
          modifyContext ctx fun c => { c with translator := c.translator.insert l }
          return l) b := rfl

end Act

end MessageBridge
