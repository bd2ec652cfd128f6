import PascalWorkspace.Text.Range

/-! White space and its removal from both ends of a text. -/
namespace PascalWorkspace.Text

def blankRanges : List (Nat × Nat) := [
  (0x9, 0xD), (0x1C, 0x20), (0x85, 0x85), (0xA0, 0xA0), (0x1680, 0x1680), (0x2000, 0x200A),
  (0x2028, 0x2029), (0x202F, 0x202F), (0x205F, 0x205F), (0x3000, 0x3000)]

def isBlank (c : Char) : Bool := inRanges blankRanges c

def dropBlankEnd (cs : List Char) : List Char := (cs.reverse.dropWhile isBlank).reverse

def trimBlank (cs : List Char) : List Char := dropBlankEnd (cs.dropWhile isBlank)

end PascalWorkspace.Text
