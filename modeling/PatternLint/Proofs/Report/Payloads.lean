import PatternLint.Proofs.Json.Reading
import PatternLint.Report

/-!
# Reading JSON reports back

Both reports that are written as JSON are values in which no object has a name twice, so that a reader of
the format gets the value back from the text, whatever the texts in the result are.
-/

namespace PatternLint

open PatternLint.Report

namespace Json

theorem itemsDistinct_map {α : Type} {f : α → Json} {l : List α}
    (h : ∀ x ∈ l, (f x).DistinctNames) : ItemsDistinct (l.map f) := by
  induction l with
  | nil => simp [ItemsDistinct]
  | cons x l ih =>
    have hx := h x List.mem_cons_self
    have hl := ih fun y hy => h y (List.mem_cons_of_mem _ hy)
    simp only [List.map_cons, ItemsDistinct]
    exact ⟨hx, hl⟩

end Json

theorem Annotation.distinctNames_toJson (a : Annotation) : a.toJson.DistinctNames := by
  simp [Json.DistinctNames, Json.FieldsDistinct, Annotation.toJson]

theorem Issue.distinctNames_toJson (i : Issue) : i.toJson.DistinctNames := by
  simp [Issue.toJson, Json.DistinctNames, Json.FieldsDistinct]

theorem LintResult.distinctNames_toJson (r : LintResult) : r.toJson.DistinctNames := by
  have hannotations : Json.ItemsDistinct (r.annotations.map Annotation.toJson) :=
    Json.itemsDistinct_map fun a _ => a.distinctNames_toJson
  have hissues : Json.ItemsDistinct (r.issues.map Issue.toJson) :=
    Json.itemsDistinct_map fun i _ => i.distinctNames_toJson
  simp [LintResult.toJson, Json.DistinctNames, Json.FieldsDistinct, hannotations, hissues]

namespace Report

theorem distinctNames_checkAnnotation (a : Annotation) :
    Json.DistinctNames <| checkAnnotation a := by
  unfold checkAnnotation
  split_ifs <;> simp [Json.DistinctNames, Json.FieldsDistinct]

theorem distinctNames_checkRun (name : String) (r : LintResult) :
    (checkRun name r).DistinctNames := by
  have hshown : Json.ItemsDistinct ((r.annotations.take maxAnnotations).map checkAnnotation) :=
    Json.itemsDistinct_map fun a _ => distinctNames_checkAnnotation a
  rw [List.map_take] at hshown
  simp [checkRun, Json.DistinctNames, Json.FieldsDistinct, hshown]

/-- **A JSON report holds its value.**  A reader of the format gets from the text, whatever the indent
is, exactly the object that describes the result, and from a check run exactly its payload; so two
results with different objects never have the same text. -/
theorem json_reports_decode [Layout.Console] (r : LintResult) (name : String) :
    (∀ indent, Json.parse ((Reporter.json indent).render r) = some r.toJson) ∧
      Json.parse ((Reporter.checkRun name).render r) = some (checkRun name r) ∧
      (∀ indent indent' r', r.toJson ≠ r'.toJson →
        (Reporter.json indent).render r ≠ (Reporter.json indent').render r') ∧
      ∀ name' r', checkRun name r ≠ checkRun name' r' →
        (Reporter.checkRun name).render r ≠ (Reporter.checkRun name').render r' := by
  have hjson : ∀ indent (r : LintResult),
      Json.parse ((Reporter.json indent).render r) = some r.toJson :=
    fun indent r => Json.parse_render indent r.distinctNames_toJson
  have hrun : ∀ name (r : LintResult),
      Json.parse ((Reporter.checkRun name).render r) = some (checkRun name r) :=
    fun name r => Json.parse_render (some 2) (distinctNames_checkRun name r)
  refine ⟨fun indent => hjson indent r, hrun name r, ?_, ?_⟩
  · intro indent indent' r' hne hsame
    apply hne
    have hread := hjson indent r
    rw [hsame, hjson indent' r'] at hread
    exact (Option.some.inj hread).symm
  · intro name' r' hne hsame
    apply hne
    have hread := hrun name r
    rw [hsame, hrun name' r'] at hread
    exact (Option.some.inj hread).symm

end Report

end PatternLint
