/-!
# Checksums

The cyclic redundancy check of 32 bits with the reflected polynomial `0xedb88320`.
-/

namespace CodeAtlas.Archive

def crcBit (c : UInt32) : UInt32 :=
  if c &&& 1 = 1 then (c >>> 1) ^^^ 0xedb88320 else c >>> 1

def crcByte (c : UInt32) (b : UInt8) : UInt32 :=
  Nat.repeat crcBit 8 (c ^^^ b.toUInt32)

def crc32 (bytes : List UInt8) : UInt32 := (bytes.foldl crcByte 0xffffffff) ^^^ 0xffffffff

end CodeAtlas.Archive
