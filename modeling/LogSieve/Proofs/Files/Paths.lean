import Mathlib.Tactic.SplitIfs
import LogSieve.Files.Path

/-! What is below a directory has a path that begins with the steps of the directory and ends with
a step of its own. -/

namespace LogSieve

namespace Text

theorem pieces_append (mark : Char) (front back : List Char) :
    pieces mark (front ++ mark :: back) = pieces mark front ++ pieces mark back := by
  induction front with
  | nil => simp [pieces]
  | cons c rest ih =>
    rw [List.cons_append, pieces, pieces, ih]
    by_cases same : c = mark
    · rw [if_pos same, if_pos same]
      rfl
    · rw [if_neg same, if_neg same]
      cases first : pieces mark rest with
      | nil => exact absurd first (pieces_ne_nil mark rest)
      | cons piece others => rfl

end Text

namespace Files.Path

open Text

structure IsEntry (name : String) : Prop where
  given : name.toList ≠ []
  whole : '/' ∉ name.toList
  notHere : name ≠ "."
  notAbove : name ≠ ".."

variable {entry : String}

theorem startsWith_slash {path : String} (whole : '/' ∉ path.toList) :
    path.startsWith "/" = false := by
  refine Bool.eq_false_iff.mpr fun absolute => whole ?_
  exact (String.startsWith_string_iff.mp absolute).subset (by simp)

theorem join_cases (directory : String) (whole : '/' ∉ entry.toList) :
    (directory = "" ∧ join directory entry = entry) ∨
      ∃ front, (directory.toList = front ++ ['/'] ∨ directory.toList = front ∧ front ≠ []) ∧
        (join directory entry).toList = front ++ '/' :: entry.toList := by
  have relative := startsWith_slash whole
  by_cases empty : directory = ""
  · exact .inl ⟨empty, by simp [join, relative, empty]⟩
  · right
    have given : directory.toList ≠ [] := fun none => empty (String.toList_injective none)
    have notEmpty : directory.isEmpty = false := by simpa using empty
    by_cases slash : directory.endsWith "/" = true
    · have ended : "/".toList <:+ directory.toList := by
        rw [← String.copy_toSlice (s := directory)]
        exact String.Slice.endsWith_string_iff.mp slash
      obtain ⟨front, same⟩ := ended
      exact ⟨front, .inl same.symm, by simp [join, relative, notEmpty, slash, ← same]⟩
    · exact ⟨directory.toList, .inr ⟨rfl, given⟩, by simp [join, relative, notEmpty, slash]⟩

theorem steps_slash (front back : List Char) :
    steps (String.ofList (front ++ '/' :: back)) =
      steps (String.ofList front) ++ steps (String.ofList back) := by
  simp only [steps, String.toList_ofList, pieces_append, List.filter_append, List.map_append]

theorem steps_entry (isEntry : IsEntry entry) : steps entry = [entry] := by
  rw [steps, pieces_of_not_mem _ _ isEntry.whole]
  simp [isEntry.given]

theorem steps_join (directory : String) (isEntry : IsEntry entry) :
    steps (join directory entry) = steps directory ++ [entry] := by
  rcases join_cases directory isEntry.whole with
    ⟨rfl, joined⟩ | ⟨front, given, joined⟩
  · rw [joined, steps_entry isEntry]
    rfl
  · have parts : steps (join directory entry) = steps (String.ofList front) ++ [entry] := by
      rw [← String.ofList_toList (s := join directory entry), joined, steps_slash,
        String.ofList_toList, steps_entry isEntry]
    have same : steps directory = steps (String.ofList front) := by
      rcases given with ended | ⟨plain, -⟩
      · rw [← String.ofList_toList (s := directory), ended, steps_slash]
        exact List.append_nil _
      · rw [← plain, String.ofList_toList]
    rw [parts, same]

theorem join_ne_empty (directory : String) (isEntry : IsEntry entry) :
    join directory entry ≠ "" := by
  intro none
  have parts := steps_join directory isEntry
  rw [none] at parts
  exact absurd parts.symm (by simp [steps, pieces])

theorem isAbsolute_join (directory : String) (isEntry : IsEntry entry) :
    isAbsolute (join directory entry) = isAbsolute directory := by
  rcases join_cases directory isEntry.whole with
    ⟨rfl, joined⟩ | ⟨front, given, joined⟩
  · have first : entry.toList.head? ≠ some '/' :=
      fun slash => isEntry.whole (List.mem_of_mem_head? slash)
    rw [joined, isAbsolute, decide_eq_false first]
    rfl
  · rw [isAbsolute, isAbsolute, joined]
    rcases given with ended | ⟨plain, filled⟩
    · rw [ended]
      cases front <;> rfl
    · rw [plain]
      cases front with
      | nil => exact absurd rfl filled
      | cons => rfl

theorem endsInSlash_join (directory : String) (isEntry : IsEntry entry) :
    endsInSlash (join directory entry) = false := by
  have last : entry.toList.getLast? ≠ some '/' :=
    fun slash => isEntry.whole (List.mem_of_mem_getLast? slash)
  rcases join_cases directory isEntry.whole with ⟨-, joined⟩ | ⟨front, -, joined⟩
  · rw [joined, endsInSlash, decide_eq_false last]
  · have same : (front ++ '/' :: entry.toList).getLast? = entry.toList.getLast? := by
      rw [List.getLast?_append, List.getLast?_cons_of_ne_nil isEntry.given,
        List.getLast?_eq_some_getLast isEntry.given, Option.some_or]
    rw [endsInSlash, joined, same, decide_eq_false last]

theorem join_append (directory : String) {ending : String}
    (whole : '/' ∉ (entry ++ ending).toList) :
    join directory (entry ++ ending) = join directory entry ++ ending := by
  rw [String.toList_append] at whole
  have shorter : '/' ∉ entry.toList := fun slash => whole (List.mem_append_left _ slash)
  simp only [join, startsWith_slash (String.toList_append ▸ whole), startsWith_slash shorter]
  split_ifs <;> simp [String.append_assoc]

/-- The last dot of a name divides it, and nothing behind the dot is a dot. -/
theorem splitName_append {stem ending : List Char} (given : stem ≠ []) (plain : '.' ∉ ending) :
    splitName (String.ofList (stem ++ '.' :: ending)) =
      (String.ofList stem, some (String.ofList ending)) := by
  have passed : ∀ c ∈ ending.reverse, (c != '.') = true := fun c member =>
    bne_iff_ne.mpr fun same => plain (same ▸ List.mem_reverse.mp member)
  have back : (String.ofList (stem ++ '.' :: ending)).toList.reverse =
      ending.reverse ++ '.' :: stem.reverse := by simp
  have kept : (ending.reverse ++ '.' :: stem.reverse).takeWhile (· != '.') = ending.reverse := by
    rw [List.takeWhile_append_of_pos passed]
    simp
  have dropped : (ending.reverse ++ '.' :: stem.reverse).dropWhile (· != '.') =
      '.' :: stem.reverse := by
    rw [List.dropWhile_append_of_pos passed]
    simp
  rw [splitName, back, kept, dropped]
  simp [given]

end Files.Path

end LogSieve
