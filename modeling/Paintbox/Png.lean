import Paintbox.Png.Filter
import Paintbox.Png.Stream

/-!
# Pictures as PNG files

A pixmap is written as an 8-bit gray picture.

* `Png.chunk` — a chunk with its length and its checksum.
* `Png.stream` — the rows of a picture as a stream.
* `Png.encode` — the file, which is `Png.body` and `Png.ending`.
-/

namespace Paintbox.Png

/-- A chunk: its length, its name and contents, and their checksum. -/
def chunk (name : String) (content : ByteArray) : ByteArray :=
  let body := name.toUTF8 ++ content
  word (UInt32.ofNat content.size) ++ body ++ word (crc body)

/-- The rows of a picture as a stream.  Where filters and code do not make it shorter, as in the
smallest pictures, the rows are stored as they are. -/
def stream (p : Pixmap) : ByteArray :=
  let short := coded (filteredRows p)
  let long := stored (plainRows p)
  if long.size < short.size then long else short

def body (p : Pixmap) : ByteArray :=
  let size := word (UInt32.ofNat p.width) ++ word (UInt32.ofNat p.height)
  ⟨#[0x89, 0x50, 0x4E, 0x47, 0x0D, 0x0A, 0x1A, 0x0A]⟩ ++
    chunk "IHDR" (size ++ ⟨#[8, 0, 0, 0, 0]⟩) ++ chunk "IDAT" (stream p)

/-- The last chunk, which says nothing but that the file ends. -/
def ending : ByteArray := chunk "IEND" .empty

def encode (p : Pixmap) : ByteArray := body p ++ ending

end Paintbox.Png
