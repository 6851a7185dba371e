import CampusBoard.Text.Ranges

/-!
# Blank characters and trimming

The blank characters are those with the Unicode property White_Space. Zero-width characters such
as U+200B and U+FEFF do not have it and count as text.

## Main definitions

* `CampusBoard.Text.isBlank`: the class of blank characters.
* `CampusBoard.Text.trimmed`: a text without its leading and trailing blanks.
* `CampusBoard.Text.isBlankText`: a text that holds nothing but blanks.

## Main results

* `CampusBoard.Text.trim_trim`: trimming a trimmed text changes nothing.
-/

set_option autoImplicit false

namespace CampusBoard.Text

/-- The code points with the property White_Space. -/
def blankRanges : Ranges :=
  [(0x9, 0xD), (0x20, 0x20), (0x85, 0x85), (0xA0, 0xA0), (0x1680, 0x1680), (0x2000, 0x200A),
    (0x2028, 0x2029), (0x202F, 0x202F), (0x205F, 0x205F), (0x3000, 0x3000)]

/-- Whether `c` is blank. -/
def isBlank (c : Char) : Bool :=
  inRanges blankRanges c

/-- The characters of `cs` without the blanks at its end. -/
def trimmedEnd (cs : List Char) : List Char :=
  (cs.reverse.dropWhile isBlank).reverse

/-- The characters of `cs` without the blanks at its two ends. -/
def trimmed (cs : List Char) : List Char :=
  trimmedEnd (cs.dropWhile isBlank)

/-- `s` without the blanks at its two ends. -/
def trim (s : String) : String :=
  String.ofList (trimmed s.toList)

/-- Whether `s` holds nothing but blanks. -/
def isBlankText (s : String) : Bool :=
  s.toList.all isBlank

/-! ## Trimming -/

/-- Characters without a blank in front have none to drop. -/
theorem dropWhile_isBlank {cs : List Char}
    (h : ∀ c ∈ cs.head?, isBlank c = false) : cs.dropWhile isBlank = cs := by
  cases cs with
  | nil => rfl
  | cons c rest => simp [h c (by simp)]

/-- Dropping blanks leaves none in front. -/
theorem head?_dropWhile_isBlank (cs : List Char) :
    ∀ c ∈ (cs.dropWhile isBlank).head?, isBlank c = false := by
  induction cs with
  | nil => simp
  | cons c rest ih =>
    by_cases h : isBlank c = true
    · simpa [List.dropWhile_cons, h] using ih
    · simp [h]

/-- Dropping blanks twice is dropping them once. -/
theorem dropWhile_dropWhile_isBlank (cs : List Char) :
    (cs.dropWhile isBlank).dropWhile isBlank = cs.dropWhile isBlank :=
  dropWhile_isBlank (head?_dropWhile_isBlank cs)

/-- Trimming the end leaves a prefix. -/
theorem trimmedEnd_prefix (cs : List Char) : trimmedEnd cs <+: cs := by
  have := List.reverse_prefix.2 (List.dropWhile_suffix (l := cs.reverse) isBlank)
  simpa [trimmedEnd] using this

/-- Trimming the end twice is trimming it once. -/
theorem trimmedEnd_trimmedEnd (cs : List Char) : trimmedEnd (trimmedEnd cs) = trimmedEnd cs := by
  simp [trimmedEnd, dropWhile_dropWhile_isBlank]

/-- Trimming leaves no blank in front. -/
theorem head?_trimmed (cs : List Char) : ∀ c ∈ (trimmed cs).head?, isBlank c = false := by
  intro c hc
  obtain ⟨rest, hrest⟩ := trimmedEnd_prefix (cs.dropWhile isBlank)
  refine head?_dropWhile_isBlank cs c ?_
  rw [← hrest]
  unfold trimmed at hc
  cases h : trimmedEnd (cs.dropWhile isBlank) with
  | nil => simp [h] at hc
  | cons d ds => simpa [h] using hc

/-- Trimming a trimmed text changes nothing. -/
theorem trimmed_trimmed (cs : List Char) : trimmed (trimmed cs) = trimmed cs := by
  have h : (trimmed cs).dropWhile isBlank = trimmed cs := dropWhile_isBlank (head?_trimmed cs)
  calc trimmed (trimmed cs) = trimmedEnd ((trimmed cs).dropWhile isBlank) := rfl
    _ = trimmedEnd (trimmed cs) := by rw [h]
    _ = trimmed cs := trimmedEnd_trimmedEnd _

/-- Trimming a text twice is trimming it once. -/
theorem trim_trim (s : String) : trim (trim s) = trim s := by
  simp [trim, trimmed_trimmed]

end CampusBoard.Text
