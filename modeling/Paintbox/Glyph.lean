/-!
# The built-in font

Printable ASCII, from the space to the tilde, in cells of 8 by 8 pixels.  A glyph is one 64-bit
word: its eight bytes, from the most significant, are the rows from the top, and the most
significant bit of a row is its leftmost pixel.

* `Glyph` — the word.
* `Glyph.ofCode` — the glyph of a character code; a code outside the font is drawn as a space.
* `Glyph.ink` — **the view**: is there ink at a column and row?
* `Glyph.rows` — the eight rows as bytes.
-/

namespace Paintbox

/-- The picture of a character, 8 by 8 pixels of ink or none. -/
structure Glyph where
  bits : UInt64
deriving DecidableEq

namespace Glyph

def side : Nat := 8

def firstCode : UInt8 := 32

def lastCode : UInt8 := 126

/-- The glyphs in the order of their codes, four to a line. -/
def font : Array UInt64 := #[
  0x0000000000000000, 0x1818181818001800, 0x6C6C240000000000, 0x6C6CFE6CFE6C6C00,
  0x187EC07C06FC1800, 0x00C6CC183066C600, 0x386C3876DCCC7600, 0x1818300000000000,
  0x0C18303030180C00, 0x30180C0C0C183000, 0x00663CFF3C660000, 0x0018187E18180000,
  0x0000000000181830, 0x0000007E00000000, 0x0000000000181800, 0x060C183060C08000,
  0x7CCEDEF6E6C67C00, 0x1838181818187E00, 0x7CC6067CC0C0FE00, 0xFC06063C0606FC00,
  0x0CCCCCCCFE0C0C00, 0xFEC0FC0606C67C00, 0x7CC0C0FCC6C67C00, 0xFE06060C18181800,
  0x7CC6C67CC6C67C00, 0x7CC6C67E06067C00, 0x0018180000181800, 0x0018180000181830,
  0x0C18306030180C00, 0x00007E007E000000, 0x30180C060C183000, 0x3C660C1818001800,
  0x7CC6DEDEDEC07E00, 0x386CC6C6FEC6C600, 0xFCC6C6FCC6C6FC00, 0x7CC6C0C0C0C67C00,
  0xF8CCC6C6C6CCF800, 0xFEC0C0F8C0C0FE00, 0xFEC0C0F8C0C0C000, 0x7CC6C0CEC6C67C00,
  0xC6C6C6FEC6C6C600, 0x7E18181818187E00, 0x06060606C6C67C00, 0xC6CCD8F0D8CCC600,
  0xC0C0C0C0C0C0FE00, 0xC6EEFED6C6C6C600, 0xC6E6F6DECEC6C600, 0x7CC6C6C6C6C67C00,
  0xFCC6C6FCC0C0C000, 0x7CC6C6C6D6DE7C06, 0xFCC6C6FCD8CCC600, 0x7CC6C07C06C67C00,
  0x7E18181818181800, 0xC6C6C6C6C6C67C00, 0xC6C6C6C66C381000, 0xC6C6C6D6FEEEC600,
  0xC6C66C386CC6C600, 0x6666663C18181800, 0xFE060C183060FE00, 0x3C30303030303C00,
  0xC06030180C060200, 0x3C0C0C0C0C0C3C00, 0x10386CC600000000, 0x00000000000000FE,
  0x18180C0000000000, 0x00007C067EC67E00, 0xC0C0FCC6C6C6FC00, 0x00007CC6C0C67C00,
  0x06067EC6C6C67E00, 0x00007CC6FEC07C00, 0x1C30307C30303000, 0x00007EC6C67E067C,
  0xC0C0FCC6C6C6C600, 0x1800381818183C00, 0x1800381818181870, 0xC0C0C6CCF8CCC600,
  0x3818181818183C00, 0x0000ECFED6C6C600, 0x0000FCC6C6C6C600, 0x00007CC6C6C67C00,
  0x0000FCC6C6FCC0C0, 0x00007EC6C67E0606, 0x0000DCE6C0C0C000, 0x00007EC07C06FC00,
  0x30307C3030301C00, 0x0000C6C6C6C67E00, 0x0000C6C6C66C3800, 0x0000C6C6D6FE6C00,
  0x0000C66C386CC600, 0x0000C6C6C67E067C, 0x0000FE0C3860FE00, 0x0E18187018180E00,
  0x1818181818181800, 0x7018180E18187000, 0x729C000000000000]

def blank : Glyph := ⟨0⟩

/-- The glyph of a code.  A code outside the font has the glyph of the space. -/
def ofCode (code : UInt8) : Glyph :=
  if firstCode ≤ code ∧ code ≤ lastCode then
    ⟨font.getD (code - firstCode).toNat 0⟩
  else
    blank

/-- Is there ink in column `col` of row `row`, both counted from zero? -/
def ink (g : Glyph) (col row : Nat) : Bool :=
  (g.bits >>> UInt64.ofNat (63 - (8 * row + col))) &&& 1 == 1

def row (g : Glyph) (i : Nat) : UInt8 := (g.bits >>> UInt64.ofNat (56 - 8 * i)).toUInt8

def rows (g : Glyph) : List UInt8 := (List.range side).map g.row

@[simp] theorem ink_blank (col row : Nat) : blank.ink col row = false := by
  simp [ink, blank]

theorem ofCode_space : ofCode firstCode = blank := rfl

end Glyph

end Paintbox
