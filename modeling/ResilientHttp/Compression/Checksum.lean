/-! Checksums of bytes. -/
namespace ResilientHttp.Compression

def crcShift : (bits : Nat) → UInt32 → UInt32
  | 0, c => c
  | n + 1, c => crcShift n (if c &&& 1 == 1 then (c >>> 1) ^^^ 0xEDB88320 else c >>> 1)

def crcStep (c : UInt32) (b : UInt8) : UInt32 := crcShift 8 (c ^^^ b.toUInt32)

def crc32 (bytes : List UInt8) : Nat := ((bytes.foldl crcStep 0xFFFFFFFF) ^^^ 0xFFFFFFFF).toNat

/-- The two sums of Adler's check, the second in the upper half. -/
def adler32 (bytes : List UInt8) : Nat :=
  let (a, b) := bytes.foldl (fun (a, b) x =>
    let a := (a + x.toNat) % 65521
    (a, (b + a) % 65521)) (1, 0)
  b * 65536 + a

end ResilientHttp.Compression
