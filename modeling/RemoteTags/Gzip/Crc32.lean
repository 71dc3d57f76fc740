import RemoteTags.Text.Utf8

/-! The cyclic redundancy check of gzip: the polynomial `EDB88320` in reflected form, with the
register complemented at both ends. -/

namespace RemoteTags.Gzip

def crcBit (r : UInt32) : UInt32 := if r &&& 1 = 1 then (r >>> 1) ^^^ 0xEDB88320 else r >>> 1

def crcByte (r : UInt32) (b : UInt8) : UInt32 :=
  crcBit (crcBit (crcBit (crcBit (crcBit (crcBit (crcBit (crcBit (r ^^^ b.toUInt32))))))))

def crc32 (data : Bytes) : UInt32 := data.foldl crcByte 0xFFFFFFFF ^^^ 0xFFFFFFFF

end RemoteTags.Gzip
