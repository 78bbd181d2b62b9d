import ResilientHttp.ByteStream
import ResilientHttp.Compression.Brotli.Stream
import ResilientHttp.Compression.Flate
import ResilientHttp.Error.Basic
import ResilientHttp.Text.Blank

/-! Content codings: how a body is decompressed, by the name of its coding. -/
namespace ResilientHttp.Compression

abbrev Decompress := ByteStream → Except Error ByteStream

def gunzip : Decompress := fun s => .ok (s.decode (Flate.machine .gzip).decoder)
def unzlib : Decompress := fun s => .ok (s.decode (Flate.machine .zlib).decoder)
def inflate : Decompress := fun s => .ok (s.decode (Flate.machine .bare).decoder)
def unbrotli : Decompress := fun s => .ok (s.decode Brotli.machine.decoder)

/-- Decompressors by the names of their codings; each name stands once, without blanks around it. -/
structure Registry where
  entries : List (String × Decompress) := []

namespace Registry

def register (r : Registry) (coding : String) (f : Decompress) : Registry :=
  let key := Text.trim coding
  ⟨(key, f) :: r.entries.filter fun e => e.1 ≠ key⟩

/-- The codings that are known from the start. -/
def standard : Registry :=
  ⟨[("gzip", gunzip), ("x-gzip", gunzip), ("deflate", inflate), ("zlib", unzlib), ("br", unbrotli)]⟩

def find? (r : Registry) (coding : String) : Option Decompress :=
  r.entries.lookup (Text.trim coding)

/-- Nothing has to be done for such a coding. -/
def isPassthrough (coding : String) : Bool :=
  let key := Text.trim coding
  key.isEmpty || key = "identity"

def wrap (r : Registry) (coding : String) (body : ByteStream) : Except Error ByteStream :=
  if isPassthrough coding then .ok body
  else match r.find? coding with
    | some f => f body
    | none => .error (.codecNotFound (Text.trim coding))

def names (r : Registry) : List String := (r.entries.map Prod.fst).mergeSort fun a b => a ≤ b

/-- The codings that can be offered to a server: a list of them is written with commas. -/
def accepted (r : Registry) : List String := r.names.filter fun n => !n.toList.contains ','

def text (r : Registry) : String :=
  "DecompressorRegistry \x7b encodings: " ++ Text.quotedList r.names ++ " \x7d"

end Registry
end ResilientHttp.Compression
