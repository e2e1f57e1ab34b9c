import CwebHighlight.Proofs.Json.Reading
import CwebHighlight.Render

/-!
# What the formats print

The words of a token list on the wire are printed as one flat array, the only field of an object.
Reading the print gives the same words in the same order (`parse?_renderLsp`).
-/

namespace CwebHighlight

/-- The object that carries the words of relative tokens. -/
def wordsObject (words : List UInt32) : Json := .object [("data", .array (words.map .ofWord))]

theorem parse?_compact_wordsObject (words : List UInt32) :
    Json.parse? (wordsObject words).compact = some (wordsObject words) := by
  have hwords : ∀ v ∈ words.map Json.ofWord, Json.Readable (Json.value 126) v.compact.toList v := by
    intro v hv
    obtain ⟨n, -, rfl⟩ := List.mem_map.1 hv
    exact Json.readable_compact_natural (Nat.lt_trans n.toNat_lt (by decide))
  have hfield : ∀ f ∈ [("data", Json.array (words.map .ofWord))],
      Json.Readable (Json.value 127) f.2.compact.toList f.2 :=
    List.forall_mem_singleton.2 (Json.readable_compact_array hwords)
  exact Json.parse?_of_readable (Json.readable_compact_object hfield)

/-- **The relative words** of a token list are what the print says. -/
theorem parse?_renderLsp {l : Legend} {tokens : List Token} {data : List DeltaToken}
    (h : l.wire tokens = .ok data) :
    ∃ text, renderLsp l tokens = .ok text ∧
      Json.parse? text = some (wordsObject (flatWords data)) := by
  refine ⟨_, ?_, parse?_compact_wordsObject (flatWords data)⟩
  rw [renderLsp, h]
  rfl

end CwebHighlight
