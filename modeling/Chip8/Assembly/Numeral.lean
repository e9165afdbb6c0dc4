import Chip8.Text.Integer

/-! # Number literals

Assembly sources write numbers in base sixteen behind `0x`, in base two behind `0b`, and in base ten
without a marker. What stands behind a marker is read as any whole number in that base.
-/

namespace Chip8.Assembly

/-- The number that the text of a literal denotes. -/
def numeralValue? : List Char → Option Int
  | '0' :: 'x' :: digits => Text.readInteger? 16 digits
  | '0' :: 'X' :: digits => Text.readInteger? 16 digits
  | '0' :: 'b' :: digits => Text.readInteger? 2 digits
  | '0' :: 'B' :: digits => Text.readInteger? 2 digits
  | digits => Text.readInteger? 10 digits

end Chip8.Assembly
