import ReviewGate.Text.Ranges

/-!
# Blanks

The Unicode property White_Space, and text without the blanks around it.
-/

namespace ReviewGate.Text

/-- Code points of the property White_Space. -/
def whiteSpace : Ranges :=
  [(0x9, 0xd), (0x20, 0x20), (0x85, 0x85), (0xa0, 0xa0), (0x1680, 0x1680), (0x2000, 0x200a),
   (0x2028, 0x2029), (0x202f, 0x202f), (0x205f, 0x205f), (0x3000, 0x3000)]

def isBlank (letter : Char) : Bool := whiteSpace.contains letter.toNat

/-- The characters without the blanks at both ends. -/
def trimChars (letters : List Char) : List Char :=
  ((letters.dropWhile isBlank).reverse.dropWhile isBlank).reverse

/-- The text without the blanks at both ends. -/
def trim (text : String) : String := String.ofList (trimChars text.toList)

/-- Nothing but blanks. -/
def isBlankText (text : String) : Bool := text.toList.all isBlank

theorem isBlank_space : isBlank ' ' = true := rfl

theorem isBlankText_eq_true_iff {text : String} :
    isBlankText text = true ↔ ∀ letter ∈ text.toList, isBlank letter = true := by
  simp [isBlankText]

end ReviewGate.Text
