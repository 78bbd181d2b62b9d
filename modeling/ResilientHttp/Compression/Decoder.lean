import ResilientHttp.Error.Transport

/-! What a decoder of a stream does. -/
namespace ResilientHttp.Compression

/-- A decoder with states in `σ`. Writing a chunk gives all the output that it completes; finishing
gives what is left, or finds out that something is missing. -/
structure Decoder (σ : Type) where
  start : σ
  write : σ → ByteArray → Except StreamError (ByteArray × σ)
  finish : σ → Except StreamError ByteArray

end ResilientHttp.Compression
