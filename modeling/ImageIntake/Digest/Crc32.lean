namespace ImageIntake.Crc32

def polynomial : UInt32 := 0xedb88320

def divide : Nat → UInt32 → UInt32
  | 0, word => word
  | bits + 1, word =>
      divide bits (if word &&& 1 = 1 then word >>> 1 ^^^ polynomial else word >>> 1)

def remainders : Array UInt32 := Array.ofFn fun byte : Fin 256 => divide 8 byte.val.toUInt32

def update (word : UInt32) (byte : UInt8) : UInt32 :=
  remainders.getD ((word ^^^ byte.toUInt32) &&& 0xff).toNat 0 ^^^ word >>> 8

def ofRange (b : ByteArray) (start stop : Nat) : UInt32 :=
  b.foldl update 0xffffffff start stop ^^^ 0xffffffff

end ImageIntake.Crc32
