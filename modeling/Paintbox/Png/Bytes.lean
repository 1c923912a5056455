/-!
# Bytes in a PNG file

* `Png.byteAt` — a byte at a place.
* `Png.word`, `Png.short` — numbers as bytes.
* `Png.crc` — the checksum of a chunk; `Png.adler` — the checksum of the filtered rows.
-/

namespace Paintbox.Png

/-- The byte at a place, or zero where there is none. -/
def byteAt (bytes : ByteArray) (i : Nat) : UInt8 := if h : i < bytes.size then bytes[i] else 0

/-- A number as four bytes, the most significant first. -/
def word (n : UInt32) : ByteArray :=
  ⟨#[(n >>> 24).toUInt8, (n >>> 16).toUInt8, (n >>> 8).toUInt8, n.toUInt8]⟩

/-- A number as two bytes, the least significant first. -/
def short (n : Nat) : ByteArray := ⟨#[UInt8.ofNat n, UInt8.ofNat (n / 256)]⟩

def crcBit (c : UInt32) : UInt32 :=
  if c &&& 1 = 1 then (c >>> 1) ^^^ 0xEDB88320 else c >>> 1

def crcTable : Array UInt32 :=
  Array.ofFn fun i : Fin 256 => (8).fold (fun _ _ c => crcBit c) (UInt32.ofNat i)

def crcByte (c : UInt32) (b : UInt8) : UInt32 :=
  crcTable.getD ((c ^^^ b.toUInt32) &&& 0xFF).toNat 0 ^^^ (c >>> 8)

def crc (bytes : ByteArray) : UInt32 := bytes.foldl crcByte 0xFFFFFFFF ^^^ 0xFFFFFFFF

def adlerByte (sums : UInt32 × UInt32) (b : UInt8) : UInt32 × UInt32 :=
  let low := (sums.1 + b.toUInt32) % 65521
  (low, (sums.2 + low) % 65521)

def adler (bytes : ByteArray) : UInt32 :=
  let sums := bytes.foldl adlerByte (1, 0)
  (sums.2 <<< 16) ||| sums.1

end Paintbox.Png
