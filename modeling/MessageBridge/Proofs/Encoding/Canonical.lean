import MessageBridge.Proofs.Encoding.InlineStruct
import MessageBridge.Proofs.Encoding.TypeString

/-!
# Canonical encodings

A type is read at several places: alone, or among the types of a type string, where other types and
stack offsets surround it. What a descriptor says is the same at all of them. It keeps the text it was
read from, without the qualifiers before it, and this text alone denotes it.

Reading looks ahead: behind the sign of an object for a question mark or a quote, behind a bit-field
for more of its width. A text that was read stopped before such a character or behind it, so with
nothing behind it there is less to look at and the same is read.

## Main results

* `Translator.translate_eq_ok_iff` — a type is translated into what the text behind its qualifiers
  spells.
* `Translator.translate_encoding_iff` — a descriptor is the translation of its own encoding just if
  the encoding spells it.
* `Translator.encodings_canonical` — this holds of all that is read.
-/

namespace MessageBridge.Translator

open Encoding

variable {t : Translator} {d : Descriptor} {s : String} {ds : List Descriptor}

/-- **The whole text** is one type just if it is read with nothing left. -/
lemma translate_eq_ok_iff_readOne : t.translate s = .ok d ↔ t.readOne s.toList = .ok (d, []) := by
  rw [translate]
  split
  · next d' h => simp [h]
  · next d' rest hrest h =>
    rw [h]
    refine iff_of_false (by rintro ⟨⟩) fun hok => hrest ?_
    exact (Prod.mk.inj (Except.ok.inj hok)).2
  · next refusal h => simp [h]

/-- **One type alone** is translated into the descriptor that the text behind the qualifiers
spells. -/
lemma translate_eq_ok_iff :
    t.translate s = .ok d ↔
      d.Spelled t.layout? ∧ d.encoding = String.ofList (skipQualifiers s.toList) := by
  rw [translate_eq_ok_iff_readOne, readOne_eq_ok_iff]
  constructor
  · rintro ⟨q, u, shape, tail, hs, hq, hu, rfl, -⟩
    obtain ⟨c, v, hcons, hstart⟩ := hu.exists_cons
    have hskip : skipQualifiers s.toList = u := by
      rw [hs, skipQualifiers_append hq, List.append_nil, hcons, skipQualifiers_cons hstart.isQualifier]
    exact ⟨⟨tail, by simpa [Descriptor.encoding, Descriptor.shape] using hu⟩, by rw [hskip]; rfl⟩
  · rintro ⟨⟨tail, hu⟩, henc⟩
    obtain ⟨q, hq, hs, -⟩ := exists_qualifiers s.toList
    rw [henc, String.toList_ofList] at hu
    refine ⟨q, _, d.shape, tail, by rwa [List.append_nil], hq, hu, ?_, by rintro - ⟨⟩⟩
    rw [← henc]
    cases d
    rfl

/-- A spelled text starts with no qualifier. -/
lemma skipQualifiers_encoding (h : d.Spelled t.layout?) :
    skipQualifiers d.encoding.toList = d.encoding.toList := by
  obtain ⟨_, hu⟩ := h
  obtain ⟨c, v, hcons, hstart⟩ := hu.exists_cons
  rw [hcons, skipQualifiers_cons hstart.isQualifier]

/-- **Canonical**: a descriptor is the translation of its own encoding just if this spells it. -/
lemma translate_encoding_iff : t.translate d.encoding = .ok d ↔ d.Spelled t.layout? := by
  rw [translate_eq_ok_iff, and_iff_left_iff_imp]
  intro h
  rw [skipQualifiers_encoding h, String.ofList_toList]

lemma split_eq_ok_iff :
    t.split s = .ok ds ↔ t.readAll s.toList.length s.toList = .ok ds := by
  rw [split]
  cases t.readAll s.toList.length s.toList <;> simp [Except.mapError]

/-- **Encodings are canonical**: each descriptor of a type string is the translation of its own
encoding. One type alone is translated into a descriptor if and only if this is the translation of its
own encoding, which is the text without its leading qualifiers. -/
theorem encodings_canonical (t : Translator) (s : String) :
    (∀ ds, t.split s = .ok ds → ∀ d ∈ ds, t.translate d.encoding = .ok d) ∧
      ∀ d, t.translate s = .ok d ↔
        t.translate d.encoding = .ok d ∧
          d.encoding = String.ofList (s.toList.dropWhile isQualifier) := by
  refine ⟨fun ds h d hd => ?_, fun d => ?_⟩
  · exact translate_encoding_iff.mpr (spelled_of_readAll (split_eq_ok_iff.mp h) d hd)
  · rw [translate_encoding_iff, translate_eq_ok_iff, skipQualifiers]

/-- **A method of many types**: a registered struct without its names, a class name, a pointer with
qualifiers inside, and an object that an offset keeps apart from something unknown. Each descriptor is
the translation of its own encoding; the qualifiers before the pointer are not part of it. -/
theorem encodings_canonical_pair :
    ∃ ds d, floatPairs.split "\x7bP=ff\x7d48@\"Window\"0:8rN^n^\x7bP=ff\x7d16@24?32" = .ok ds ∧
      ds.map (·.encoding) =
        ["\x7bP=ff\x7d", "@\"Window\"", ":", "^n^\x7bP=ff\x7d", "@", "?"] ∧
      (∀ e ∈ ds, floatPairs.translate e.encoding = .ok e) ∧
      floatPairs.translate "rN^n^\x7bP=ff\x7d" = .ok d ∧
      floatPairs.translate d.encoding = .ok d ∧ d.encoding = "^n^\x7bP=ff\x7d" := by
  have hsplit : floatPairs.split "\x7bP=ff\x7d48@\"Window\"0:8rN^n^\x7bP=ff\x7d16@24?32" =
      .ok [.mk "\x7bP=ff\x7d" (.aggregate floatPair), .mk "@\"Window\"" (.object (some "Window")),
        .selector, .mk "^n^\x7bP=ff\x7d" (.pointer 2 none), .object,
        .mk "?" (.pointer 1 none)] := by decide +kernel
  have hone : floatPairs.translate "rN^n^\x7bP=ff\x7d" =
      .ok (.mk "^n^\x7bP=ff\x7d" (.pointer 2 none)) := by decide +kernel
  exact ⟨_, _, hsplit, by decide +kernel, (encodings_canonical _ _).1 _ hsplit, hone,
    (((encodings_canonical _ _).2 _).mp hone).1, by decide +kernel⟩

end MessageBridge.Translator
