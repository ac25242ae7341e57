import AccessKit.L2Audit.Chain

/-!
# The texts that are hashed

Hash chains, request hashes and stored files all rest on `stableStringify`: its texts tell
apart what is different JSON, do not tell apart what is the same, and can be parsed.

Results:
* `stableStringify_canonical`: one text just for the same JSON, and it is read back as such.
-/
namespace AccessKit.L2.Audit
open AccessKit.Core AccessKit.L1 AccessKit.L2.Audit.Fixtures

/-- **`stableStringify` is canonical and injective** on JSON: two values have one text just when
they are equal up to the order of the keys and the properties that are `undefined`, and the
text is read back as such a value. -/
theorem stableStringify_canonical {H : Host} {readNumber : String → Option Rat}
    (hp : PrintsNumbers H) (hr : ReadsNumbers H readNumber) {v w : JsValue} (hv : IsJson v)
    (hw : IsJson w) :
    (stableStringify H v = stableStringify H w ↔ SameJson v w) ∧
      ∃ s u, stableStringify H v = some s ∧ jsonParse readNumber s = some u ∧ SameJson v u := by
  obtain ⟨s, u, hs, hu, hsame⟩ := parse_stableStringify hp hr hv "" (by simp)
  rw [String.append_empty] at hu
  exact ⟨⟨sameJson_of_text hp hv hw, stableStringify_congr hv hw⟩, s, u, hs, hu, hsame⟩

/-- Nested containers, an escape and a property that is `undefined`. -/
def nested : JsValue :=
  .obj [("z", .arr [.obj [], .arr [], .str "a\"\n\x01"]), ("note", .undefined), ("a", .null)]

theorem nested_json : IsJson nested := by
  refine .obj (by decide) fun p hp hne => ?_
  simp only [List.mem_cons, List.not_mem_nil, or_false] at hp
  rcases hp with rfl | rfl | rfl
  · refine .arr fun v hv => ?_
    simp only [List.mem_cons, List.not_mem_nil, or_false] at hv
    rcases hv with rfl | rfl | rfl
    · exact .obj List.nodup_nil (by simp)
    · exact .arr (by simp)
    · exact .str _
  · exact absurd rfl hne
  · exact .null

theorem stableStringify_canonical_nested :
    (stableStringify exactHost nested = stableStringify exactHost (.obj payloadReordered) ↔
      SameJson nested (.obj payloadReordered)) ∧
      ∃ s u, stableStringify exactHost nested = some s ∧ jsonParse scanNumber s = some u ∧
        SameJson nested u :=
  stableStringify_canonical printsNumbers_exact readsNumbers_exact nested_json
    (.obj (by decide) (by simp [payloadReordered, IsJson.str, IsJson.num]))

/-- White space and escapes that are never written are read too. -/
example : (jsonParse scanNumber " [ \"\\u0041\\/\" , true ] ").map (stableStringify exactHost) =
    some (some "[\"A/\",true]") := by
  decide +kernel

end AccessKit.L2.Audit
