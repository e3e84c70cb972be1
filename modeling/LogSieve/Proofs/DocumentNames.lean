import LogSieve.FilterName
import LogSieve.Proofs.Files.Trees

/-! A legal name with an extension behind it is the name of a file: one step of a path and not too
long. Documents have different files when they have different names, and no document has the file
of a draft. -/

namespace LogSieve.FilterName

open Files Text

variable {name other : String}

structure Fit (name : String) : Prop where
  given : name.toList ≠ []
  short : octetCount name.toList ≤ octetLimit
  plain : ∀ c ∈ name.toList, isIllegal c = false

theorem fit_of_legal (legal : fault? name = none) : Fit name := by
  unfold fault? at legal
  dsimp only at legal
  split at legal
  · cases legal
  · next solid =>
    split at legal
    · cases legal
    · next short =>
      split at legal
      · cases legal
      · next clean =>
        refine ⟨fun none => solid ?_, Nat.not_lt.mp short, fun c member => ?_⟩
        · rw [none]
          rfl
        · exact Bool.eq_false_iff.mpr (List.find?_eq_none.mp clean c member)

structure Extension (ending : String) : Prop where
  long : 2 ≤ ending.toList.length
  short : octetCount ending.toList ≤ Tree.nameLimit - octetLimit
  whole : '/' ∉ ending.toList

theorem extension_json : Extension ".json" := ⟨by decide, by decide, by decide⟩

theorem extension_draft : Extension ".json.tmp" := ⟨by decide, by decide, by decide⟩

theorem isEntry_append (fit : Fit name) {ending : String} (extension : Extension ending) :
    Path.IsEntry (name ++ ending) := by
  obtain ⟨given, -, plain⟩ := fit
  obtain ⟨long, -, whole⟩ := extension
  have longer : 2 < (name ++ ending).toList.length := by
    have := List.length_pos_iff.mpr given
    rw [String.toList_append, List.length_append]
    omega
  refine ⟨fun none => ?_, fun slash => ?_, ?_, ?_⟩
  · rw [none] at longer
    cases longer
  · rw [String.toList_append, List.mem_append] at slash
    rcases slash with inName | inEnding
    · exact Bool.false_ne_true ((plain _ inName).symm.trans (by decide))
    · exact whole inEnding
  · rintro same
    rw [same] at longer
    exact absurd longer (by decide)
  · rintro same
    rw [same] at longer
    exact absurd longer (by decide)

theorem octetCount_append_le (fit : Fit name) {ending : String} (extension : Extension ending) :
    octetCount (name ++ ending).toList ≤ Tree.nameLimit := by
  have limits : octetLimit ≤ Tree.nameLimit := by decide
  have := fit.short
  have := extension.short
  rw [String.toList_append, octetCount_append]
  omega

theorem document_injective (same : name ++ ".json" = other ++ ".json") : name = other :=
  (String.append_left_inj ".json").mp same

/-- No document is the draft of another one. -/
theorem document_ne_draft : name ++ ".json" ≠ other ++ ".json.tmp" := by
  intro same
  have last := congrArg (fun text : String => text.toList.getLast?) same
  simp at last

theorem splitName_document (fit : Fit name) :
    Path.splitName (name ++ ".json") = (name, some "json") := by
  have split := Path.splitName_append fit.given (by decide : '.' ∉ "json".toList)
  have same : String.ofList (name.toList ++ '.' :: "json".toList) = name ++ ".json" := by
    rw [String.ofList_append, String.ofList_toList]
    rfl
  rw [same, String.ofList_toList, String.ofList_toList] at split
  exact split

theorem pathFault?_document {directory : String} (fit : Fit name)
    (free : Tree.pathFault? (Path.join directory (name ++ ".json.tmp")) = none) :
    Tree.pathFault? (Path.join directory (name ++ ".json")) = none := by
  have longer : name ++ ".json.tmp" = name ++ ".json" ++ ".tmp" := by
    rw [String.append_assoc]
    rfl
  have given := Path.join_ne_empty directory (isEntry_append fit extension_json)
  rw [longer, Path.join_append _ (longer ▸ (isEntry_append fit extension_draft).whole)] at free
  exact Tree.pathFault?_of_append given free

end LogSieve.FilterName
