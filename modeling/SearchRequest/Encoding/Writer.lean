import SearchRequest.Document.Printer

/-! # Writers

A document goes to a writer piece by piece, until a piece is refused. One writer keeps everything
in memory. Another has room for some bytes; a piece that does not fit is taken as far as there is
room, and then that writer fails.
-/

namespace SearchRequest

/-- What takes bytes. A chunk is accepted or refused with a reason, and in both cases the writer
goes on to another state. -/
class Writer (ω : Type) where
  write : ω → List UInt8 → Except String Unit × ω

namespace Writer

def utf8 (s : String) : List UInt8 :=
  s.toUTF8.toList

/-- Write pieces in order until one is refused. -/
def writeAll {ω : Type} [Writer ω] (w : ω) : List String → Except String Unit × ω
  | [] => (.ok (), w)
  | piece :: pieces =>
    match write w (utf8 piece) with
    | (.ok (), w) => writeAll w pieces
    | (.error reason, w) => (.error reason, w)

end Writer

/-- Bytes in memory, where there is always room. -/
instance : Writer (List UInt8) where
  write bytes chunk := (.ok (), bytes ++ chunk)

structure ByteWriter where
  room : Nat
  /-- What the writer says once its room is used up. -/
  failure : String
  bytes : List UInt8 := []

namespace ByteWriter

def fits (w : ByteWriter) (chunk : List UInt8) : Bool :=
  chunk.length ≤ w.room

def take (w : ByteWriter) (chunk : List UInt8) : ByteWriter :=
  { w with room := w.room - chunk.length, bytes := w.bytes ++ chunk.take w.room }

instance : Writer ByteWriter where
  write w chunk := (if w.fits chunk then .ok () else .error w.failure, w.take chunk)

end ByteWriter

end SearchRequest
