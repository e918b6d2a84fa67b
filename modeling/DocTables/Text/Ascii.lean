/-
# Names that differ only in ASCII case

Collection, table and field names are compared ignoring the case of the letters `A` to `Z`; every
other character, accented letters included, has to agree exactly.  `eqIgnoreCase_comm` and its
neighbours say that this is an equivalence.
-/

namespace DocTables.Text

/-- The text with the letters `A` to `Z` in lower case and all else as it is. -/
def lowerAscii (s : String) : List Char := s.toList.map Char.toLower

/-- Whether two texts agree up to the case of ASCII letters. -/
def eqIgnoreCase (a b : String) : Bool := lowerAscii a == lowerAscii b

theorem eqIgnoreCase_iff {a b : String} :
    eqIgnoreCase a b = true ↔ lowerAscii a = lowerAscii b := by
  simp [eqIgnoreCase]

@[simp] theorem eqIgnoreCase_self (a : String) : eqIgnoreCase a a = true := by
  simp [eqIgnoreCase]

theorem eqIgnoreCase_comm (a b : String) : eqIgnoreCase a b = eqIgnoreCase b a := by
  rw [Bool.eq_iff_iff, eqIgnoreCase_iff, eqIgnoreCase_iff]
  exact eq_comm

/-- The digits `0` to `9`. -/
def isDigit (c : Char) : Bool := '0' ≤ c && c ≤ '9'

/-- The value of a decimal digit. -/
def digitValue (c : Char) : Nat := c.toNat - '0'.toNat

end DocTables.Text
