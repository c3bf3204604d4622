import Turnstile.Text.Ranges

/-!
White space is the White_Space property, and trimming and removal use it everywhere. The byte order
mark and the zero-width space are not white space.
-/

namespace Turnstile.Text

def blankRanges : List (Nat × Nat) := [
    (0x9, 0xD), (0x20, 0x20), (0x85, 0x85), (0xA0, 0xA0), (0x1680, 0x1680), (0x2000, 0x200A),
    (0x2028, 0x2029), (0x202F, 0x202F), (0x205F, 0x205F), (0x3000, 0x3000)]

def isBlank (c : Char) : Bool := inRanges blankRanges c

/-- Leading and trailing white space removed. -/
def trimmed (s : List Char) : List Char :=
  ((s.dropWhile isBlank).reverse.dropWhile isBlank).reverse

def trim (s : String) : String := String.ofList (trimmed s.toList)

/-- All white space removed, inside as well as around. -/
def withoutBlanks (s : String) : String := String.ofList (s.toList.filter (!isBlank ·))

@[simp] theorem toList_trim (s : String) : (trim s).toList = trimmed s.toList := by simp [trim]

@[simp] theorem toList_withoutBlanks (s : String) :
    (withoutBlanks s).toList = s.toList.filter (!isBlank ·) := by simp [withoutBlanks]

@[simp] theorem withoutBlanks_withoutBlanks (s : String) :
    withoutBlanks (withoutBlanks s) = withoutBlanks s := by
  simp [withoutBlanks]

/-- An absent or blank text is absent; any other is kept without its surrounding white space. -/
def nonBlank? (s : Option String) : Option String :=
  (s.map trim).filter (· ≠ "")

end Turnstile.Text
