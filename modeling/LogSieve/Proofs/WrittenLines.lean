import LogSieve.Command.Basic
import LogSieve.Proofs.LineByLine
import LogSieve.Proofs.Utf8
import LogSieve.Proofs.WrittenRecords

/-! Lines of records are read again. A record that has been read from a source with a name has an
identity of its own, so its line says all about it: wherever the line stands and whatever the source
is called then, it gives the record again. -/

namespace LogSieve

open Text Json

namespace Text

theorem le_of_mem_utf8EncodeChar {c : Char} (printed : 0x20 ≤ c.toNat) {octet : UInt8}
    (member : octet ∈ String.utf8EncodeChar c) : 0x20 ≤ octet.toNat := by
  have same : c.val.toNat = c.toNat := rfl
  have top : c.val.toNat < 0x110000 := by rcases c.valid with low | high <;> omega
  unfold String.utf8EncodeChar at member
  dsimp only at member
  split_ifs at member <;> simp at member
  · rw [member]
    simp
    omega
  · rcases member with rfl | rfl <;> simp <;> omega
  · rcases member with rfl | rfl | rfl <;> simp <;> omega
  · rcases member with rfl | rfl | rfl | rfl <;> simp <;> omega

theorem le_of_mem_octets {text : String} (printed : Printed text.toList) {octet : UInt8}
    (member : octet ∈ octets text) : 0x20 ≤ octet.toNat := by
  rw [octets_eq_flatMap, List.mem_flatMap] at member
  obtain ⟨c, inside, encoded⟩ := member
  exact le_of_mem_utf8EncodeChar (printed c inside) encoded

end Text

namespace Lines

theorem withoutReturn_eq {line : Octets} (plain : carriageReturn ∉ line) :
    withoutReturn line = line := by
  have kept : dropReturn line.reverse = line.reverse := by
    cases same : line.reverse with
    | nil => rfl
    | cons octet before =>
      have member : octet ∈ line := List.mem_reverse.mp (same ▸ List.mem_cons_self)
      have other : octet ≠ carriageReturn := fun ends => plain (ends ▸ member)
      rw [dropReturn, if_neg other]
  rw [withoutReturn, kept, List.reverse_reverse]

theorem identified_eq {source : String} {line : Nat} {record : Record} (named : record.source ≠ "")
    (numbered : record.line ≠ 0) : identified source line record = record := by
  simp [identified, named, numbered]

def Countable (octets : Octets) : Prop := (split octets).length < 0x10000000000000000

def written (record : Record) : Octets := octets (Format.json.line record)

end Lines

namespace Record

structure Rereadable (record : Record) : Prop extends record.Restorable where
  named : record.source ≠ ""
  numbered : record.line ≠ 0

end Record

namespace Lines

variable {record : Record}

theorem printed_line (restorable : record.Restorable) :
    Printed (Format.json.line record).toList := by
  rw [Format.line, Json.compact, String.toList_ofList]
  exact printed_write _ restorable.exact_toJson

theorem notMem_written (restorable : record.Restorable) :
    lineFeed ∉ written record ∧ carriageReturn ∉ written record := by
  constructor <;> intro member <;>
    exact absurd (le_of_mem_octets (printed_line restorable) member) (by decide)

theorem outcome?_written (restorable : record.Restorable) :
    outcome? (written record) = some (.ok record) := by
  have opens : '{' ∈ (Format.json.line record).toList := by
    rw [Format.line, Json.compact, String.toList_ofList, Record.toJson, write_object]
    exact List.mem_cons_self
  have given : trim (Format.json.line record).toList ≠ [] := fun blank =>
    absurd ((trim_eq_nil_iff _).mp blank '{' opens) (by decide)
  have read : Record.ofText (Format.json.line record) = .ok record := restorable.ofText_compact
  simp [outcome?, written, textOf?_octets, given, read, Except.mapError]

theorem item?_written (rereadable : record.Rereadable) (source : String) (line : Nat) :
    item? source line (written record) = some (.record record) := by
  rw [item?_eq, outcome?_written rereadable.toRestorable, Option.map_some, Reading.item,
    identified_eq rereadable.named rereadable.numbered]

/-- The line of a record gives the record and nothing else, wherever it stands and whatever stands
around it. -/
structure GivenBack (record : Record) : Prop where
  single : '\n' ∉ (Format.json.line record).toList
  item : ∀ source line, item? source line (written record) = some (.record record)
  alone : ∀ source, (flow source (written record)).items = [.record record]
  within : ∀ source front back, Whole front →
    (flow source (front ++ (written record ++ lineFeed :: back))).items =
      (flow source front).items ++ .record record ::
        (readings back).map (Reading.itemBehind source (front.count lineFeed + 1))

theorem givenBack (rereadable : record.Rereadable) : GivenBack record where
  single := (printed_line rereadable.toRestorable).newline_notMem
  item := item?_written rereadable
  alone source := by
    have given : written record ≠ [] := by
      intro empty
      have read := outcome?_written rereadable.toRestorable
      rw [empty] at read
      cases read
    have single := (notMem_written rereadable.toRestorable).1
    have last : items source ([] ++ written record) = _ := items_last source (.inl rfl) given single
    rw [items_flow]
    simpa [items_nil, item?_written rereadable] using last
  within source front back whole := by
    obtain ⟨single, plain⟩ := notMem_written rereadable.toRestorable
    simp [items_flow, items_line source whole single, withoutReturn_eq plain,
      item?_written rereadable]

theorem restorable_of_outcome? {line : Octets} {found : Record}
    (read : outcome? line = some (.ok found)) : found.Restorable := by
  unfold outcome? at read
  split at read
  · cases read
  · next text _ =>
    split at read
    · cases read
    · cases decoded : Record.ofText text with
      | error trouble => simp [decoded, Except.mapError] at read
      | ok other =>
        obtain rfl : other = found := by simpa [decoded, Except.mapError] using read
        exact Record.ofText_gives text other decoded

theorem rereadable_identified {source : String} (named : source ≠ "") {line : Nat}
    (numbered : line ≠ 0) (short : line < 0x10000000000000000)
    (restorable : record.Restorable) : (identified source line record).Rereadable where
  timestamp := restorable.timestamp
  line := by
    have own := restorable.line
    simp only [identified]
    split_ifs <;> assumption
  processId := restorable.processId
  named := by
    by_cases empty : record.source = "" <;> simp [identified, empty, named]
  numbered := by
    by_cases absent : record.line = 0 <;> simp [identified, absent, numbered]

theorem rereadable_of_mem {source : String} {octets : Octets} (named : source ≠ "")
    (countable : Countable octets) (given : .record record ∈ items source octets) :
    record.Rereadable := by
  unfold Countable at countable
  rw [items_eq, List.mem_map] at given
  obtain ⟨⟨number, outcome⟩, member, same⟩ := given
  obtain ⟨positive, line, stands, read⟩ := mem_readingsFrom.mp member
  obtain ⟨inside, -⟩ := List.getElem?_eq_some_iff.mp stands
  dsimp only at positive inside read
  cases outcome with
  | error reason => cases same
  | ok found =>
    cases same
    exact rereadable_identified named (by omega) (by omega) (restorable_of_outcome? read)

/-! ### Several lines -/

theorem itemsFrom_written (source : String) (line : Nat) {records : List Record}
    (each : ∀ record ∈ records, record.Rereadable) :
    itemsFrom source line (split (records.flatMap fun record => written record ++ [lineFeed])) =
      records.map .record := by
  induction records generalizing line with
  | nil => rfl
  | cons record records ih =>
    obtain ⟨rereadable, others⟩ := List.forall_mem_cons.mp each
    obtain ⟨single, plain⟩ := notMem_written rereadable.toRestorable
    simp [split_line single, withoutReturn_eq plain, itemsFrom, item?_written rereadable,
      ih (line + 1) others]

end Lines

end LogSieve
