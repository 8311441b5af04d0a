/-! # Blank characters

The characters that count as padding around a setting, a placeholder or a script.

* **The class.** The 25 characters with the Unicode property White_Space: tab to carriage return,
  space, next line, no-break space, the Ogham and en-to-hair spaces, the line and paragraph
  separators, the narrow and mathematical spaces and the ideographic space.
* **Trimming.** `trim` drops the longest blank beginning and the longest blank end; a text of
  blanks alone trims to nothing (`trim_eq_nil_iff`). -/

namespace TransactionGateway.Text

/-- Membership in White_Space. -/
def isBlank (c : Char) : Bool :=
  let n := c.toNat
  (0x09 ≤ n && n ≤ 0x0D) || n == 0x20 || n == 0x85 || n == 0xA0 || n == 0x1680
    || (0x2000 ≤ n && n ≤ 0x200A) || n == 0x2028 || n == 0x2029 || n == 0x202F || n == 0x205F
    || n == 0x3000

/-- Text without its blank beginning. -/
def trimStart (s : List Char) : List Char := s.dropWhile isBlank

/-- Text without its blank end. -/
def trimEnd (s : List Char) : List Char := (s.reverse.dropWhile isBlank).reverse

/-- Text without its blank beginning and its blank end. -/
def trim (s : List Char) : List Char := trimEnd (trimStart s)

/-- Every character of the text is blank. -/
def allBlank (s : List Char) : Bool := s.all isBlank

/-- Trimming of strings. -/
def trimmed (s : String) : String := String.ofList (trim s.toList)

theorem dropWhile_blank_eq_nil_iff (s : List Char) :
    s.dropWhile isBlank = [] ↔ ∀ c ∈ s, isBlank c = true := by
  induction s with
  | nil => simp
  | cons c s ih => by_cases h : isBlank c <;> simp [h, ih]

theorem trimStart_eq_nil_iff (s : List Char) : trimStart s = [] ↔ allBlank s = true := by
  rw [trimStart, dropWhile_blank_eq_nil_iff, allBlank, List.all_eq_true]

theorem trimEnd_eq_nil_iff (s : List Char) : trimEnd s = [] ↔ allBlank s = true := by
  rw [trimEnd, List.reverse_eq_nil_iff, dropWhile_blank_eq_nil_iff, allBlank, List.all_eq_true]
  simp only [List.mem_reverse]

theorem allBlank_trimStart (s : List Char) : allBlank (trimStart s) = allBlank s := by
  induction s with
  | nil => rfl
  | cons c s ih =>
    by_cases h : isBlank c
    · simpa [trimStart, allBlank, h] using ih
    · simp [trimStart, allBlank, h]

theorem trim_eq_nil_iff (s : List Char) : trim s = [] ↔ allBlank s = true := by
  rw [trim, trimEnd_eq_nil_iff, allBlank_trimStart]

end TransactionGateway.Text
