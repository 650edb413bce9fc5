import RemoteNotes.Text.Utf8
import RemoteNotes.Text.Blank

/-!
# Header fields

Which names and values a header field may have. Names count without regard to case.
-/

namespace RemoteNotes.Http

open Text.Utf8 (Octets)

/-- The punctuation that a header name may hold. -/
def isTokenMark (c : Char) : Bool :=
  ['!', '#', '$', '%', '&', Char.ofNat 0x27, '*', '+', '-', '.', '^', '_', '\x60', '|', '~'].contains c

def isHeaderName (s : String) : Bool :=
  !s.isEmpty && s.utf8ByteSize < 65536 && s.toList.all fun c => c.isAlphanum || isTokenMark c

/-- Octets of a header value: no control characters but the tab. -/
def isHeaderOctet (b : UInt8) : Bool := (0x20 ≤ b && b != 0x7F) || b == 0x09

def isHeaderValue (s : String) : Bool := (Text.Utf8.ofString s).all isHeaderOctet

/-- A value that holds visible ASCII, blanks and tabs only. -/
def isPlainValue (value : Octets) : Bool :=
  value.all fun b => (0x20 ≤ b && b < 0x7F) || b == 0x09

end RemoteNotes.Http
