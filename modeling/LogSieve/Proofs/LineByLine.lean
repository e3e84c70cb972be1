import LogSieve.Proofs.LineIdentity
import Mathlib.Data.List.TakeWhile

/-! Reading line by line. What a line gives depends on its own octets and on the count of the lines
in front of it, and on nothing else. So the items of a text in two parts, the first of which is made
of whole lines, are those of the parts, where the second part counts on from the lines of the
first. -/

namespace LogSieve.Lines

open Text

/-! ### Lines -/

/-- A text of whole lines: what follows it begins on a line of its own. -/
def Whole (front : Octets) : Prop := front = [] ∨ front.getLast? = some lineFeed

def withoutReturn (line : Octets) : Octets := (dropReturn line.reverse).reverse

theorem splitFrom_append (before : Octets) {front : Octets}
    (last : front.getLast? = some lineFeed) (back : Octets) :
    splitFrom before (front ++ back) = splitFrom before front ++ split back ∧
      (splitFrom before front).length = front.count lineFeed := by
  induction front generalizing before with
  | nil => cases last
  | cons octet front ih =>
    by_cases alone : front = []
    · obtain rfl : octet = lineFeed := by simpa [alone] using last
      simp [alone, splitFrom, split]
    · rw [List.getLast?_cons_of_ne_nil alone] at last
      by_cases ends : octet = lineFeed
      · simp [splitFrom, ends, ih [] last]
      · simp [splitFrom, ends, ih (octet :: before) last]

theorem split_append {front : Octets} (whole : Whole front) (back : Octets) :
    split (front ++ back) = split front ++ split back ∧
      (split front).length = front.count lineFeed := by
  rcases whole with rfl | last
  · simp [split_nil]
  · exact splitFrom_append [] last back

theorem splitFrom_line (before : Octets) {line : Octets} (single : lineFeed ∉ line)
    (back : Octets) : splitFrom before (line ++ lineFeed :: back) =
      (dropReturn (line.reverse ++ before)).reverse :: split back := by
  induction line generalizing before with
  | nil => simp [splitFrom, split]
  | cons octet line ih =>
    rw [List.mem_cons, not_or] at single
    simp [splitFrom, Ne.symm single.1, ih (octet :: before) single.2]

theorem split_line {line : Octets} (single : lineFeed ∉ line) (back : Octets) :
    split (line ++ lineFeed :: back) = withoutReturn line :: split back := by
  simp [split, splitFrom_line [] single, withoutReturn]

theorem split_last {line : Octets} (single : lineFeed ∉ line) :
    split line = if line = [] then [] else [line] := by
  have all : ∀ before, splitFrom before line =
      if line.reverse ++ before = [] then [] else [(line.reverse ++ before).reverse] := by
    induction line with
    | nil => intro before; cases before <;> simp [splitFrom]
    | cons octet line ih =>
      intro before
      rw [List.mem_cons, not_or] at single
      simp [splitFrom, Ne.symm single.1, ih single.2]
  simpa [split] using all []

/-! ### Readings -/

structure Reading where
  line : Nat
  outcome : Except String Record

def outcome? (octets : Octets) : Option (Except String Record) :=
  match textOf? octets with
  | none => some (.error "stream did not contain valid UTF-8")
  | some text =>
    if (trim text.toList).isEmpty then none
    else some ((Record.ofText text).mapError Json.Trouble.message)

def readingsFrom (line : Nat) : List Octets → List Reading
  | [] => []
  | octets :: rest =>
    ((outcome? octets).map (Reading.mk line)).toList ++ readingsFrom (line + 1) rest

def readings (octets : Octets) : List Reading := readingsFrom 1 (split octets)

namespace Reading

def item (source : String) : Reading → Item
  | ⟨line, .ok written⟩ => .record (identified source line written)
  | ⟨line, .error reason⟩ => .error (.invalidRecord line reason)

/-- The item that a line gives behind `count` more lines: the number of an error is counted on, and
so is that of a record that has brought none along. -/
def itemBehind (source : String) (count : Nat) : Reading → Item
  | ⟨line, .ok written⟩ =>
    let read := identified source line written
    .record (if written.line = 0 then { read with line := read.line + count } else read)
  | ⟨line, .error reason⟩ => .error (.invalidRecord (line + count) reason)

/-- The line brings neither a source nor a number along. -/
def Anonymous (reading : Reading) : Prop :=
  ∀ written, reading.outcome = .ok written → written.source = "" ∧ written.line = 0

theorem item_behind (source : String) (count : Nat) (reading : Reading) :
    item source { reading with line := reading.line + count } =
      reading.itemBehind source count := by
  obtain ⟨line, outcome⟩ := reading
  cases outcome with
  | error reason => rfl
  | ok written =>
    by_cases absent : written.line = 0 <;> simp [item, itemBehind, identified, absent]

end Reading

theorem item?_eq (source : String) (line : Nat) (octets : Octets) :
    item? source line octets =
      (outcome? octets).map fun outcome => Reading.item source ⟨line, outcome⟩ := by
  unfold item? outcome?
  cases textOf? octets with
  | none => rfl
  | some text =>
    dsimp only
    split
    · rfl
    · cases Record.ofText text <;> rfl

theorem itemsFrom_eq (source : String) (line : Nat) (lines : List Octets) :
    itemsFrom source line lines = (readingsFrom line lines).map (Reading.item source) := by
  induction lines generalizing line with
  | nil => rfl
  | cons octets rest ih =>
    rw [itemsFrom, readingsFrom, List.map_append, ih, item?_eq]
    cases outcome? octets <;> rfl

theorem readingsFrom_append (line : Nat) (front back : List Octets) :
    readingsFrom line (front ++ back) =
      readingsFrom line front ++ readingsFrom (line + front.length) back := by
  induction front generalizing line with
  | nil => simp [readingsFrom]
  | cons octets front ih =>
    simp [readingsFrom, ih, Nat.add_assoc, Nat.add_comm 1]

theorem readingsFrom_add (line count : Nat) (lines : List Octets) :
    readingsFrom (line + count) lines = (readingsFrom line lines).map
      fun reading => { reading with line := reading.line + count } := by
  induction lines generalizing line with
  | nil => rfl
  | cons octets rest ih =>
    rw [readingsFrom, readingsFrom, List.map_append, ← ih, Nat.add_right_comm]
    cases outcome? octets <;> rfl

theorem mem_readingsFrom {line : Nat} {lines : List Octets} {reading : Reading} :
    reading ∈ readingsFrom line lines ↔ line ≤ reading.line ∧
      ∃ octets, lines[reading.line - line]? = some octets ∧
        outcome? octets = some reading.outcome := by
  induction lines generalizing line with
  | nil => simp [readingsFrom]
  | cons octets rest ih =>
    have here : reading ∈ ((outcome? octets).map (Reading.mk line)).toList ↔
        reading.line = line ∧ outcome? octets = some reading.outcome := by
      obtain ⟨number, outcome⟩ := reading
      cases outcome? octets <;> simp [eq_comm]
    rw [readingsFrom, List.mem_append, here, ih]
    rcases Nat.lt_trichotomy reading.line line with before | rfl | behind
    · simp [Nat.not_le.mpr before, Nat.ne_of_lt before, Nat.not_le.mpr (Nat.lt_succ_of_lt before)]
    · simp
    · obtain ⟨more, same⟩ := Nat.exists_eq_add_of_lt behind
      have inside : reading.line - line = (reading.line - (line + 1)) + 1 := by omega
      simp [Nat.ne_of_gt behind, Nat.le_of_lt behind, Nat.succ_le_of_lt behind, inside]

theorem pairwise_readingsFrom (line : Nat) (lines : List Octets) :
    (readingsFrom line lines).Pairwise fun first second => first.line < second.line := by
  induction lines generalizing line with
  | nil => exact List.Pairwise.nil
  | cons octets rest ih =>
    rw [readingsFrom]
    refine List.pairwise_append.mpr ⟨?_, ih (line + 1), fun first here second behind => ?_⟩
    · cases outcome? octets <;> simp
    · obtain ⟨outcome, -, rfl⟩ := Option.map_eq_some_iff.mp (Option.mem_toList.mp here)
      exact (mem_readingsFrom.mp behind).1

/-! ### Blank lines -/

def Blank (octets : Octets) : Prop :=
  ∃ text, textOf? octets = some text ∧ ∀ c ∈ text.toList, isBlank c = true

theorem trim_eq_nil_iff (text : List Char) : trim text = [] ↔ ∀ c ∈ text, isBlank c = true := by
  rw [trim, trimRight, List.reverse_eq_nil_iff, List.dropWhile_eq_nil_iff]
  simp only [List.mem_reverse, trimLeft]
  constructor
  · intro behind c member
    rw [← List.takeWhile_append_dropWhile (p := isBlank) (l := text), List.mem_append] at member
    exact member.elim List.mem_takeWhile_imp (behind c)
  · intro blank c member
    exact blank c ((List.dropWhile_suffix _).subset member)

theorem outcome?_eq_none_iff (octets : Octets) : outcome? octets = none ↔ Blank octets := by
  unfold outcome? Blank
  cases textOf? octets with
  | none => simp
  | some text => simp [trim_eq_nil_iff]

/-! ### Texts in two parts -/

/-- The items of a text whose first part is made of whole lines. -/
structure LineByLine (source : String) (front back : Octets) : Prop where
  items : (flow source back).items = (readings back).map (Reading.item source)
  append : (flow source (front ++ back)).items = (flow source front).items ++
    (readings back).map (Reading.itemBehind source (front.count lineFeed))
  line : ∀ line, lineFeed ∉ line →
    (flow source (front ++ (line ++ lineFeed :: back))).items = (flow source front).items ++
      ((item? source (front.count lineFeed + 1) (withoutReturn line)).toList ++
        (readings back).map (Reading.itemBehind source (front.count lineFeed + 1)))
  last : ∀ line, line ≠ [] → lineFeed ∉ line →
    (flow source (front ++ line)).items = (flow source front).items ++
      (item? source (front.count lineFeed + 1) line).toList
  blank : ∀ number line, item? source number line = none ↔ Blank line
  placed : ∀ reading, reading ∈ readings back ↔ 0 < reading.line ∧
    ∃ line, (split back)[reading.line - 1]? = some line ∧ outcome? line = some reading.outcome
  ordered : (readings back).Pairwise fun first second => first.line < second.line
  keys : (∀ reading ∈ readings back, reading.Anonymous) →
    ((flow source back).items.filterMap Item.record?).map Record.key =
      ((readings back).filter (·.outcome.isOk)).map fun reading => ⟨source, reading.line⟩

theorem items_flow (source : String) (octets : Octets) :
    (flow source octets).items = items source octets :=
  Flow.items_ofEvents_give _

theorem items_eq (source : String) (octets : Octets) :
    items source octets = (readings octets).map (Reading.item source) :=
  itemsFrom_eq source 1 (split octets)

theorem items_append (source : String) {front : Octets} (whole : Whole front) (back : Octets) :
    items source (front ++ back) = items source front ++
      (readings back).map (Reading.itemBehind source (front.count lineFeed)) := by
  obtain ⟨lines, count⟩ := split_append whole back
  rw [items_eq, items_eq, readings, lines, readingsFrom_append, count, readingsFrom_add,
    List.map_append, List.map_map]
  exact congrArg _ (List.map_congr_left fun reading _ => reading.item_behind source _)

theorem whole_line (front line : Octets) : Whole (front ++ (line ++ [lineFeed])) := by
  simp [Whole, ← List.append_assoc]

theorem map_itemBehind_single (source : String) (count : Nat) (line : Octets) :
    (readingsFrom 1 [line]).map (Reading.itemBehind source count) =
      (item? source (count + 1) line).toList := by
  rw [item?_eq, readingsFrom]
  cases outcome? line <;> simp [readingsFrom, ← Reading.item_behind, Nat.add_comm 1]

theorem items_line (source : String) {front line : Octets} (whole : Whole front)
    (single : lineFeed ∉ line) (back : Octets) :
    items source (front ++ (line ++ lineFeed :: back)) = items source front ++
      ((item? source (front.count lineFeed + 1) (withoutReturn line)).toList ++
        (readings back).map (Reading.itemBehind source (front.count lineFeed + 1))) := by
  have parts : front ++ (line ++ lineFeed :: back) = (front ++ (line ++ [lineFeed])) ++ back := by
    simp
  have one : (line ++ [lineFeed]).count lineFeed = 1 := by
    simp [List.count_eq_zero.mpr single]
  have first : readings (line ++ [lineFeed]) = readingsFrom 1 [withoutReturn line] := by
    rw [readings, split_line single, split_nil]
  rw [parts, items_append source (whole_line front line), items_append source whole,
    List.count_append, one, first, map_itemBehind_single, List.append_assoc]

theorem items_last (source : String) {front line : Octets} (whole : Whole front)
    (given : line ≠ []) (single : lineFeed ∉ line) :
    items source (front ++ line) = items source front ++
      (item? source (front.count lineFeed + 1) line).toList := by
  rw [items_append source whole, readings, split_last single, if_neg given, map_itemBehind_single]

theorem keys_of_anonymous (source : String) {read : List Reading}
    (anonymous : ∀ reading ∈ read, reading.Anonymous) :
    ((read.map (Reading.item source)).filterMap Item.record?).map Record.key =
      (read.filter (·.outcome.isOk)).map fun reading => ⟨source, reading.line⟩ := by
  induction read with
  | nil => rfl
  | cons reading read ih =>
    obtain ⟨here, behind⟩ := List.forall_mem_cons.mp anonymous
    obtain ⟨line, outcome⟩ := reading
    cases outcome with
    | error reason =>
      simpa [List.filterMap_cons, Reading.item, Item.record?, Except.isOk, Except.toBool] using
        ih behind
    | ok written =>
      obtain ⟨unnamed, absent⟩ := here written rfl
      simpa [List.filterMap_cons, Reading.item, Item.record?, Except.isOk, Except.toBool,
        identified, Record.key, unnamed, absent] using ih behind

theorem lineByLine (source : String) {front : Octets} (whole : Whole front) (back : Octets) :
    LineByLine source front back where
  items := by rw [items_flow, items_eq]
  append := by simp only [items_flow, items_append source whole]
  line line single := by simp only [items_flow, items_line source whole single]
  last line given single := by simp only [items_flow, items_last source whole given single]
  blank number line := by rw [item?_eq, Option.map_eq_none_iff, outcome?_eq_none_iff]
  placed reading := mem_readingsFrom
  ordered := pairwise_readingsFrom 1 (split back)
  keys anonymous := by
    rw [items_flow, items_eq]
    exact keys_of_anonymous source anonymous

/-- A blank line and one that is no text stand in front, the last line has no end. -/
theorem lineByLine_behind_malformed :
    let front := octets "  \r\n" ++ [255, lineFeed]
    let back := octets ("\x7b\"timestamp\":\"2026-01-01T00:00:00Z\",\"level\":\"INFO\"," ++
      "\"message\":\"a\"\x7d\r\n\r\n\x7b")
    Whole front ∧ LineByLine "app.log" front back ∧
      (readings back).map Reading.line = [1, 3] ∧
      ((flow "app.log" (front ++ back)).items.filterMap Item.record?).map Record.key =
        [⟨"app.log", 3⟩] := by
  intro front back
  have whole : Whole front := .inr rfl
  exact ⟨whole, lineByLine "app.log" whole back, by decide +kernel, by decide +kernel⟩

end LogSieve.Lines
