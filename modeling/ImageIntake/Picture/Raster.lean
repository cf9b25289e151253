namespace ImageIntake

structure Raster (α : Type) where
  width : Nat
  height : Nat
  pixels : Array α
  size_eq : pixels.size = width * height

namespace Raster

variable {α β : Type}

theorem index_lt {width height x y : Nat} (hx : x < width) (hy : y < height) :
    y * width + x < width * height := by
  have : (y + 1) * width ≤ height * width := Nat.mul_le_mul_right _ hy
  rw [Nat.mul_comm height width, Nat.add_mul, Nat.one_mul] at this
  omega

theorem column_lt {width height i : Nat} (h : i < width * height) : i % width < width :=
  Nat.mod_lt _ (Nat.pos_of_mul_pos_right (Nat.lt_of_le_of_lt (Nat.zero_le i) h))

theorem row_lt {width height i : Nat} (h : i < width * height) : i / width < height :=
  Nat.div_lt_of_lt_mul h

def ofFn (width height : Nat) (f : (x y : Nat) → x < width → y < height → α) : Raster α where
  width
  height
  pixels := Array.ofFn fun i : Fin (width * height) =>
    f (i % width) (i / width) (column_lt i.2) (row_lt i.2)
  size_eq := Array.size_ofFn

def pixelAt (r : Raster α) (x y : Nat) (hx : x < r.width) (hy : y < r.height) : α :=
  have : y * r.width + x < r.pixels.size := r.size_eq ▸ index_lt hx hy
  r.pixels[y * r.width + x]

@[simp] theorem width_ofFn (w h : Nat) (f : (x y : Nat) → x < w → y < h → α) :
    (ofFn w h f).width = w := rfl

@[simp] theorem height_ofFn (w h : Nat) (f : (x y : Nat) → x < w → y < h → α) :
    (ofFn w h f).height = h := rfl

theorem pixelAt_ofFn (w h : Nat) (f : (x y : Nat) → x < w → y < h → α) (x y : Nat)
    (hx : x < w) (hy : y < h) : (ofFn w h f).pixelAt x y hx hy = f x y hx hy := by
  have hcol : (y * w + x) % w = x := by
    rw [Nat.mul_comm, Nat.mul_add_mod, Nat.mod_eq_of_lt hx]
  have hrow : (y * w + x) / w = y := by
    rw [Nat.mul_comm, Nat.mul_add_div (Nat.lt_of_le_of_lt (Nat.zero_le x) hx),
      Nat.div_eq_of_lt hx, Nat.add_zero]
  simp only [pixelAt, ofFn, Array.getElem_ofFn]
  congr

def ofArray? (width height : Nat) (pixels : Array α) : Option (Raster α) :=
  if h : pixels.size = width * height then some ⟨width, height, pixels, h⟩ else none

def map (f : α → β) (r : Raster α) : Raster β :=
  ⟨r.width, r.height, r.pixels.map f, by rw [Array.size_map, r.size_eq]⟩

def get? (r : Raster α) (x y : Nat) : Option α :=
  if h : x < r.width ∧ y < r.height then some (r.pixelAt x y h.1 h.2) else none

end Raster

end ImageIntake
