import ResilientHttp.Error.Transport

/-! What can be wrong with compressed data. -/
namespace ResilientHttp.Compression

inductive Fault
  | badDeflate
  | badGzipHeader
  | badGzipChecksum
  | longGzipField
  | badBrotli
  | cutBrotli
  /-- Bytes follow the end of the data. -/
  | leftover
  /-- The data asks for more steps than any sound data does. -/
  | endless
deriving Repr, DecidableEq

def Fault.toStreamError : Fault → StreamError
  | .badDeflate => ⟨.invalidInput, "corrupt deflate stream"⟩
  | .badGzipHeader => ⟨.invalidInput, "invalid gzip header"⟩
  | .badGzipChecksum => ⟨.invalidInput, "corrupt gzip stream does not have a matching checksum"⟩
  | .longGzipField => ⟨.invalidInput, "gzip header field too long"⟩
  | .badBrotli => ⟨.invalidData, "Invalid Data"⟩
  | .cutBrotli => ⟨.unexpectedEnd, "truncated brotli stream"⟩
  | .leftover => ⟨.writeZero, "failed to write whole buffer"⟩
  | .endless => ⟨.invalidData, "Invalid Data"⟩

end ResilientHttp.Compression
