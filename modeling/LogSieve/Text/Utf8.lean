/-! Text as octets. Reading gives nothing when the octets are no text at all. -/

namespace LogSieve.Text

abbrev Octets := List UInt8

def octets (text : String) : Octets := text.toUTF8.data.toList

def textOf? (bytes : Octets) : Option String := String.fromUTF8? ⟨bytes.toArray⟩

theorem textOf?_octets (text : String) : textOf? (octets text) = some text := by
  simp only [textOf?, octets, String.fromUTF8?, Array.toArray_toList]
  exact dif_pos text.isValidUTF8

def octetCount : List Char → Nat
  | [] => 0
  | c :: rest => c.utf8Size + octetCount rest

theorem octetCount_append (a b : List Char) :
    octetCount (a ++ b) = octetCount a + octetCount b := by
  induction a with
  | nil => simp [octetCount]
  | cons c rest ih => simp [octetCount, ih, Nat.add_assoc]

end LogSieve.Text
