/-! White space and blank text. White space is the Unicode property `White_Space`, which is
wider than the ASCII class of the standard library and leaves out the format characters
U+180E, U+200B, U+2060 and U+FEFF. -/
namespace RequestAuth.Text

def isSpace (c : Char) : Bool :=
  let n := c.toNat
  (0x09 ≤ n && n ≤ 0x0D) || n == 0x20 || n == 0x85 || n == 0xA0 || n == 0x1680 ||
    (0x2000 ≤ n && n ≤ 0x200A) || n == 0x2028 || n == 0x2029 || n == 0x202F || n == 0x205F ||
    n == 0x3000

/-- Blank text is white space throughout; the empty text is blank. -/
def isBlank (s : String) : Bool := s.toList.all isSpace

def trimLeft (cs : List Char) : List Char := cs.dropWhile isSpace

def trimRight (cs : List Char) : List Char := (cs.reverse.dropWhile isSpace).reverse

/-- Removes the white space at both ends. -/
def trim (s : String) : String := String.ofList (trimRight (trimLeft s.toList))

/-- Equality that does not tell an ASCII capital from its small letter. -/
def sameLetters (s t : String) : Bool :=
  s.toList.map Char.toLower == t.toList.map Char.toLower

theorem isBlank_iff (s : String) : isBlank s = true ↔ ∀ c ∈ s.toList, isSpace c = true := by
  simp [isBlank]

theorem toNat_toLower (c : Char) :
    c.toLower.toNat = if 65 ≤ c.toNat ∧ c.toNat ≤ 90 then c.toNat + 32 else c.toNat := by
  have bound : c.toNat < 2 ^ 32 := c.val.toNat_lt
  have capital : 'A'.val ≤ c.val ∧ c.val ≤ 'Z'.val ↔ 65 ≤ c.toNat ∧ c.toNat ≤ 90 := by
    simp only [UInt32.le_iff_toNat_le]
    rfl
  by_cases upper : 65 ≤ c.toNat ∧ c.toNat ≤ 90
  · have lowered : c.toLower = _ := dif_pos (capital.mpr upper)
    have shifted : (c.val + ('a'.val - 'A'.val)).toNat = (c.toNat + 32) % 2 ^ 32 :=
      UInt32.toNat_add ..
    rw [lowered, if_pos upper]
    exact shifted.trans (Nat.mod_eq_of_lt (by omega))
  · have same : c.toLower = c := dif_neg fun inside => upper (capital.mp inside)
    rw [same, if_neg upper]

/-- A letter is the same in lower case when it is that letter or its capital. -/
theorem toLower_eq_iff {c small capital : Char} (letter : 65 ≤ capital.toNat ∧ capital.toNat ≤ 90)
    (pair : small.toNat = capital.toNat + 32) :
    c.toLower = small ↔ c = small ∨ c = capital := by
  rw [← Char.toNat_inj, ← Char.toNat_inj (c := c), ← Char.toNat_inj (c := c), toNat_toLower]
  split <;> omega

end RequestAuth.Text
