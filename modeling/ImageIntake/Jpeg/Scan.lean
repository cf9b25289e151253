import ImageIntake.Jpeg.Segment

namespace ImageIntake.Jpeg

abbrev Coefficients := Array (Array Int)

def splitData (b : ByteArray) : Nat → Nat → ByteArray → Array ByteArray → Array ByteArray × Nat
  | 0, place, part, parts => (parts.push part, place)
  | fuel + 1, place, part, parts =>
      if h : place < b.size then
        let byte := b.get place h
        if byte ≠ 0xff then splitData b fuel (place + 1) (part.push byte) parts
        else
          let next := Bytes.at0 b (place + 1)
          if next = 0 ∧ place + 1 < b.size then splitData b fuel (place + 2) (part.push byte) parts
          else if next = 0xff then splitData b fuel (place + 1) part parts
          else if 0xd0 ≤ next ∧ next ≤ 0xd7 then
            splitData b fuel (place + 2) .empty (parts.push part)
          else (parts.push part, place)
      else (parts.push part, place)

structure Cursor where
  place : Nat
  blankBlocks : Nat
  means : Array Int

def extend (bits count : Nat) : Int :=
  if bits < 1 <<< (count - 1) then (bits : Int) + 1 - (1 <<< count : Nat) else bits

@[inline] def readNumber (b : ByteArray) (place count : Nat) : Int :=
  if count = 0 then 0 else extend (Bits.high b place count) count

structure Task where
  bytes : ByteArray
  head : ScanHead
  meanCode : PrefixCode
  detailCode : PrefixCode

structure Result where
  values : Array Int
  place : Nat
  blankBlocks : Nat

namespace Task

def readMean (t : Task) (place : Nat) : Option (Int × Nat) :=
  let entry := t.meanCode.lookHigh t.bytes place
  if entry = PrefixCode.missing then none
  else
    let count := min 16 (PrefixCode.entrySymbol entry)
    let place := place + PrefixCode.entryLength entry
    some (readNumber t.bytes place count, place + count)

def readDetails (t : Task) (start : Nat) : Nat → Nat → Nat → Array Int → Option Result
  | 0, _, place, values => some ⟨values, place, 0⟩
  | fuel + 1, k, place, values =>
      if t.head.last < k then some ⟨values, place, 0⟩
      else
        let entry := t.detailCode.lookHigh t.bytes place
        let symbol := PrefixCode.entrySymbol entry
        let place := place + PrefixCode.entryLength entry
        let (zeros, count) := (symbol / 16, symbol % 16)
        if entry = PrefixCode.missing then none
        else if count = 0 then
          if zeros = 15 then readDetails t start fuel (k + 16) place values
          else some ⟨values, place + zeros, 1 <<< zeros - 1 + Bits.high t.bytes place zeros⟩
        else
          let value := readNumber t.bytes place count * t.head.unit
          let k := k + zeros
          let values := if 63 < k then values
            else values.setIfInBounds (start + diagonals.getD k 0) value
          readDetails t start fuel (k + 1) (place + count) values

def refined (t : Task) (place : Nat) (value : Int) : Int :=
  let unit := t.head.unit
  if Bits.high t.bytes place 1 = 0 ∨ value.natAbs >>> t.head.shift % 2 = 1 then value
  else if 0 ≤ value then value + unit else value - unit

def refineUpTo (t : Task) (start : Nat) : Nat → Nat → Nat → Nat → Array Int → Nat × Result
  | 0, k, _, place, values => (k, ⟨values, place, 0⟩)
  | fuel + 1, k, zeros, place, values =>
      if t.head.last < k then (k, ⟨values, place, 0⟩)
      else
        let i := start + diagonals.getD k 0
        let value := values.getD i 0
        if value ≠ 0 then
          refineUpTo t start fuel (k + 1) zeros (place + 1)
            (values.setIfInBounds i (t.refined place value))
        else if zeros = 0 then (k, ⟨values, place, 0⟩)
        else refineUpTo t start fuel (k + 1) (zeros - 1) place values

def refineRest (t : Task) (start k place : Nat) (values : Array Int) : Result :=
  (refineUpTo t start 64 k 64 place values).2

def refineDetails (t : Task) (start : Nat) : Nat → Nat → Nat → Array Int → Option Result
  | 0, _, place, values => some ⟨values, place, 0⟩
  | fuel + 1, k, place, values =>
      if t.head.last < k then some ⟨values, place, 0⟩
      else
        let entry := t.detailCode.lookHigh t.bytes place
        let symbol := PrefixCode.entrySymbol entry
        let place := place + PrefixCode.entryLength entry
        let (zeros, count) := (symbol / 16, symbol % 16)
        if entry = PrefixCode.missing then none
        else if count = 0 ∧ zeros ≠ 15 then
          let blank := 1 <<< zeros - 1 + Bits.high t.bytes place zeros
          let r := t.refineRest start k (place + zeros) values
          some { r with blankBlocks := blank }
        else
          let isNegative := count ≠ 0 ∧ Bits.high t.bytes place 1 = 0
          let place := if count = 0 then place else place + 1
          let (k, ⟨values, place, _⟩) := t.refineUpTo start 64 k zeros place values
          let unit := t.head.unit
          let values := if count = 0 ∨ t.head.last < k then values
            else values.setIfInBounds (start + diagonals.getD k 0) (if isNegative then -unit else unit)
          refineDetails t start fuel (k + 1) place values

def readBand (t : Task) (start first place blankBlocks : Nat) (values : Array Int) : Option Result :=
  if 0 < blankBlocks then
    if t.head.isRefinement then
      some { t.refineRest start first place values with blankBlocks := blankBlocks - 1 }
    else some ⟨values, place, blankBlocks - 1⟩
  else if t.head.isRefinement then t.refineDetails start 64 first place values
  else t.readDetails start 64 first place values

def readBlockMean (t : Task) (component start : Nat) (c : Cursor) (values : Array Int) :
    Option (Array Int × Cursor) :=
  if t.head.isRefinement then
    let bit : Int := Bits.high t.bytes c.place 1
    some (values.modify start (· + bit * t.head.unit), { c with place := c.place + 1 })
  else
    match t.readMean c.place with
    | none => none
    | some (difference, place) =>
        let mean := c.means.getD component 0 + difference
        some (values.setIfInBounds start (mean * t.head.unit),
          { c with place, means := c.means.setIfInBounds component mean })

def readBlock (t : Task) (component start : Nat) (c : Cursor) (values : Array Int) :
    Option (Array Int × Cursor) := do
  let (values, c) ← if t.head.first = 0 then t.readBlockMean component start c values
    else pure (values, c)
  if t.head.last = 0 then return (values, c)
  let r ← t.readBand start (max 1 t.head.first) c.place c.blankBlocks values
  return (r.values, { c with place := r.place, blankBlocks := r.blankBlocks })

end Task

structure UnitBlock where
  share : Share
  right : Nat
  below : Nat

structure Layout where
  columns : Nat
  rows : Nat
  across : Array Nat
  down : Array Nat
  blocks : List UnitBlock

def ScanHead.layout (s : ScanHead) (f : Frame) : Layout :=
  let component (share : Share) := f.components.getD share.component default
  match s.shares.toList with
  | [share] =>
      let c := component share
      let ones := Array.replicate f.components.size 1
      ⟨f.usedColumns c, f.usedRows c, ones, ones, [⟨share, 0, 0⟩]⟩
  | shares =>
      ⟨f.unitColumns, f.unitRows, f.components.map Component.across,
        f.components.map Component.down,
        shares.flatMap fun share =>
          let c := component share
          (List.range (c.across * c.down)).map fun i => ⟨share, i % c.across, i / c.across⟩⟩

def readUnit (f : Frame) (l : Layout) (task : Share → Option Task) (unit : Nat) :
    List UnitBlock → Cursor → Coefficients → Option (Coefficients × Cursor)
  | [], c, all => some (all, c)
  | block :: rest, c, all =>
      let i := block.share.component
      let column := unit % l.columns * l.across.getD i 1 + block.right
      let row := unit / l.columns * l.down.getD i 1 + block.below
      let start := 64 * (row * f.blockColumns (f.components.getD i default) + column)
      let values := all.getD i #[]
      let all := all.setIfInBounds i #[]
      match (task block.share).bind fun t => t.readBlock i start c values with
      | none => none
      | some (values, c) => readUnit f l task unit rest c (all.setIfInBounds i values)

def readUnits (f : Frame) (l : Layout) (restartInterval : Nat)
    (task : ByteArray → Share → Option Task) (parts : Array ByteArray) :
    (left unit : Nat) → Cursor → Coefficients → Option Coefficients
  | 0, _, _, all => some all
  | left + 1, unit, c, all =>
      let isRestart := 0 < restartInterval ∧ unit % restartInterval = 0
      let c := if isRestart then ⟨0, 0, c.means.map fun _ => 0⟩ else c
      let part := parts.getD (if restartInterval = 0 then 0 else unit / restartInterval) .empty
      match readUnit f l (task part) unit l.blocks c all with
      | none => none
      | some (all, c) => readUnits f l restartInterval task parts left (unit + 1) c all

def readScan (f : Frame) (s : ScanHead) (tables : Tables) (parts : Array ByteArray)
    (all : Coefficients) : Option Coefficients :=
  let needsMeans := s.first = 0 ∧ !s.isRefinement
  let code (needed : Bool) (codes : Array (Option PrefixCode)) (i : Nat) : Option PrefixCode :=
    if needed then (codes[i]?).join else some ⟨0, #[]⟩
  let task (bytes : ByteArray) (share : Share) : Option Task := do
    let meanCode ← code needsMeans tables.meanCodes share.meanCode
    let detailCode ← code (s.last ≠ 0) tables.detailCodes share.detailCode
    return ⟨bytes, s, meanCode, detailCode⟩
  let parts := if tables.restartInterval = 0 then #[parts.foldl (· ++ ·) .empty] else parts
  let l := s.layout f
  readUnits f l tables.restartInterval task parts (l.columns * l.rows) 0
    ⟨0, 0, Array.replicate f.components.size 0⟩ all

end ImageIntake.Jpeg
