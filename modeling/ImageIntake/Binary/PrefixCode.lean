import ImageIntake.Binary.Bits

namespace ImageIntake

structure PrefixCode where
  width : Nat
  table : Array UInt32

namespace PrefixCode

def missing : UInt32 := 0xffffffff

@[inline] def entryLength (entry : UInt32) : Nat := (entry &&& 31).toNat

@[inline] def entrySymbol (entry : UInt32) : Nat := (entry >>> 5).toNat

def coverage (limit : Nat) (lengths : Array Nat) : Nat :=
  lengths.foldl (fun sum l => if l = 0 then sum else sum + 1 <<< (limit - l)) 0

def wordCount (lengths : Array Nat) : Nat :=
  lengths.foldl (fun n l => if l = 0 then n else n + 1) 0

def enter (order : BitOrder) (width : Nat) (table : Array UInt32) (word length : Nat)
    (entry : UInt32) : Array UInt32 :=
  let (start, step) := match order with
    | .lowFirst => (Bits.reverse length word, 1 <<< length)
    | .highFirst => (word <<< (width - length), 1)
  (1 <<< (width - length)).fold (fun k _ table => table.setIfInBounds (start + k * step) entry) table

structure Word where
  symbol : Nat
  length : Nat
  deriving DecidableEq, Repr

def ofWords (order : BitOrder) (words : Array Word) : PrefixCode :=
  let width := words.foldl (fun n w => max n w.length) 0
  let step := fun (table, next, length) (w : Word) =>
    let word := next <<< (w.length - length)
    let entry := w.symbol.toUInt32 <<< 5 ||| w.length.toUInt32
    (enter order width table word w.length entry, word + 1, w.length)
  ⟨width, (words.foldl step (Array.replicate (1 <<< width) missing, 0, 0)).1⟩

def byLength (lengths : Array Nat) : Array Word :=
  (lengths.foldl max 0).fold (fun l _ words =>
    lengths.size.fold (fun symbol _ (words : Array Word) =>
      if lengths.getD symbol 0 = l + 1 then words.push ⟨symbol, l + 1⟩ else words) words) #[]

def ofLengths (order : BitOrder) (lengths : Array Nat) : PrefixCode :=
  ofWords order (byLength lengths)

def single (symbol : Nat) : PrefixCode := ⟨0, #[symbol.toUInt32 <<< 5]⟩

@[inline] def lookLow (c : PrefixCode) (b : ByteArray) (place : Nat) : UInt32 :=
  c.table.getD (Bits.low b place c.width) missing

@[inline] def lookHigh (c : PrefixCode) (b : ByteArray) (place : Nat) : UInt32 :=
  c.table.getD (Bits.high b place c.width) missing

end PrefixCode

end ImageIntake
