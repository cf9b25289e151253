import ImageIntake.Jpeg.Scan
import ImageIntake.Picture.Basic

namespace ImageIntake.Jpeg

open Bytes

def wave (x u : Nat) : Float :=
  let scale : Float := if u = 0 then (0.125 : Float).sqrt else 0.5
  scale * ((2 * x + 1).toFloat * u.toFloat * 3.141592653589793 / 16).cos

def waves : FloatArray := Nat.fold 64 (fun i _ (w : FloatArray) => w.push (wave (i / 8) (i % 8))) .empty

@[inline] def sumWaves (x : Nat) (amplitude : Nat → Float) : Float :=
  Nat.fold 8 (fun u _ sum => sum + waves.get! (8 * x + u) * amplitude u) 0

def sampleOf (x : Float) : UInt8 :=
  let shifted := (x + 128.5).floor
  if 255 < shifted then 255 else shifted.toUInt8

def appendBlock (steps values : Array Int) (start : Nat) (out : ByteArray) : ByteArray :=
  let amplitude (i : Nat) : Float :=
    Float.ofInt (values.getD (start + i) 0 * steps.getD i 0)
  if Nat.all 63 fun i _ => values.getD (start + i + 1) 0 == 0 then
    let sample := sampleOf (amplitude 0 / 8)
    Nat.fold 64 (fun _ _ (out : ByteArray) => out.push sample) out
  else
    let rows := Nat.fold 64 (fun i _ (rows : FloatArray) =>
      rows.push (sumWaves (i % 8) fun u => amplitude (i / 8 * 8 + u))) .empty
    Nat.fold 64 (fun i _ (out : ByteArray) =>
      out.push (sampleOf (sumWaves (i / 8) fun v => rows.get! (8 * v + i % 8)))) out

structure Samples where
  across : Nat
  down : Nat
  blockColumns : Nat
  bytes : ByteArray

def samplesOf (f : Frame) (c : Component) (steps values : Array Int) : Samples :=
  let count := f.blockColumns c * f.blockRows c
  ⟨c.across, c.down, f.blockColumns c,
    count.fold (fun i _ out => appendBlock steps values (64 * i) out) .empty⟩

@[inline] def Samples.sampleAt (s : Samples) (maxAcross maxDown x y : Nat) : Int :=
  let x := x * s.across / maxAcross
  let y := y * s.down / maxDown
  at0 s.bytes (64 * (y / 8 * s.blockColumns + x / 8) + 8 * (y % 8) + x % 8)

inductive ColourSpace where
  | gray
  | lumaChroma
  | rgb
  | inks
  | lumaChromaInk
  deriving DecidableEq, Repr

namespace ColourSpace

def ofFrame (f : Frame) (transform : Option Nat) : ColourSpace :=
  match f.components.size with
  | 1 => .gray
  | 4 => if transform = some 2 then .lumaChromaInk else .inks
  | _ =>
      let ids := f.components.map Component.id
      if transform = some 0 ∨ (transform = none ∧ ids = #[0x52, 0x47, 0x42]) then .rgb
      else .lumaChroma

end ColourSpace

def clamp (x : Int) : UInt8 := (min 255 (max 0 x)).toNat.toUInt8

def ofLumaChroma (luma blue red : Int) : Rgba :=
  let b := blue - 128
  let r := red - 128
  .solid (clamp (luma + (91881 * r + 32768) / 65536))
    (clamp (luma - (22554 * b + 46802 * r + 32768) / 65536))
    (clamp (luma + (116130 * b + 32768) / 65536))

def darken (p : Rgba) (light : Int) : Rgba :=
  let scale (x : UInt8) : UInt8 := clamp ((x.toNat * light + 127) / 255)
  .solid (scale p.red) (scale p.green) (scale p.blue)

def colour (space : ColourSpace) (sample : Nat → Int) : Rgba :=
  match space with
  | .gray => .gray (clamp (sample 0))
  | .lumaChroma => ofLumaChroma (sample 0) (sample 1) (sample 2)
  | .rgb => .solid (clamp (sample 0)) (clamp (sample 1)) (clamp (sample 2))
  | .inks => darken (.solid (clamp (sample 0)) (clamp (sample 1)) (clamp (sample 2))) (sample 3)
  | .lumaChromaInk =>
      let p := ofLumaChroma (sample 0) (sample 1) (sample 2)
      darken (.solid (255 - p.red) (255 - p.green) (255 - p.blue)) (sample 3)

def assemble (f : Frame) (tables : Tables) (all : Coefficients) : Option (Raster Rgba) := do
  let samples ← (List.range f.components.size).mapM fun i => do
    let c ← f.components[i]?
    let steps ← (tables.steps[c.steps]?).join
    return samplesOf f c steps (all.getD i #[])
  let samples := samples.toArray
  let space := ColourSpace.ofFrame f tables.colourTransform
  let (across, down) := (f.maxAcross, f.maxDown)
  return Raster.ofFn f.width f.height fun x y _ _ =>
    colour space fun i =>
      match samples[i]? with
      | none => 0
      | some s => s.sampleAt across down x y

structure Progress where
  tables : Tables
  frame : Option Frame
  coefficients : Coefficients
  seen : List Nat

namespace Progress

def start : Progress := ⟨.empty, none, #[], []⟩

def withFrame? (p : Progress) (f : Frame) : Option Progress :=
  let size := f.width * f.height * (if f.components.size = 1 then 1 else 3)
  if p.frame.isNone && size ≤ Picture.maxDecodedBytes then
    some { p with
      frame := some f
      coefficients := f.components.map fun c =>
        Array.replicate (64 * f.blockColumns c * f.blockRows c) 0 }
  else none

def isFinished (p : Progress) : Bool :=
  match p.frame with
  | none => false
  | some f => !f.isProgressive && (List.range f.components.size).all p.seen.contains

def readScan? (b : ByteArray) (p : Progress) (place stop : Nat) : Option (Progress × Nat) := do
  let f ← p.frame
  let head ← ScanHead.read? b place (stop - place) f
  let head := if f.isProgressive then head else
    { head with first := 0, last := 63, isRefinement := false, shift := 0 }
  let (parts, next) := splitData b b.size stop .empty #[]
  let ⟨tables, frame, coefficients, seen⟩ := p
  let coefficients ← readScan f head tables parts coefficients
  return (⟨tables, frame, coefficients, head.shares.toList.map Share.component ++ seen⟩, next)

def withColourTransform (b : ByteArray) (place stop : Nat) (t : Tables) : Tables :=
  if hasText b place "Adobe" && place + 12 ≤ stop then
    { t with colourTransform := some (at0 b (place + 11)) }
  else t

def readSegment? (b : ByteArray) (p : Progress) (code place stop : Nat) : Option Progress :=
  match code with
  | 0xdb => (p.tables.readSteps b stop (b.size + 1) place).map fun t => { p with tables := t }
  | 0xc4 => (p.tables.readCodes b stop (b.size + 1) place).map fun t => { p with tables := t }
  | 0xdd => some { p with tables := { p.tables with restartInterval := word16 .big b place } }
  | 0xee => some { p with tables := withColourTransform b place stop p.tables }
  | 0xc0 => (Frame.read? b place (stop - place) false).bind p.withFrame?
  | 0xc1 => (Frame.read? b place (stop - place) false).bind p.withFrame?
  | 0xc2 => (Frame.read? b place (stop - place) true).bind p.withFrame?
  | code => if (0xc3 ≤ code ∧ code ≤ 0xcf) ∨ code = 0xdc then none else some p

def finish (p : Progress) : Option Picture :=
  if p.seen.isEmpty then none
  else p.frame.bind fun f => (assemble f p.tables p.coefficients).bind Picture.ofRaster?

def readMarkers (b : ByteArray) : Nat → Nat → Progress → Option Picture
  | 0, _, p => p.finish
  | fuel + 1, place, p =>
      if p.isFinished then p.finish
      else match nextMarker? b (b.size + 1) place with
        | none => p.finish
        | some ⟨code, place⟩ =>
            if code = 0xd9 then p.finish
            else if code = 1 ∨ (0xd0 ≤ code ∧ code ≤ 0xd8) then readMarkers b fuel place p
            else
              let length := word16 .big b place
              let stop := place + length
              if length < 2 ∨ b.size < stop then if p.seen.isEmpty then none else p.finish
              else if code = 0xda then
                match readScan? b p (place + 2) stop with
                | none => none
                | some (p, place) => readMarkers b fuel place p
              else match readSegment? b p code (place + 2) stop with
                | none => none
                | some p => readMarkers b fuel stop p

end Progress

def decode? (b : ByteArray) : Option Picture := Progress.readMarkers b b.size 2 .start

end ImageIntake.Jpeg
