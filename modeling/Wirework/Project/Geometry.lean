import Wirework.Number.Double

/-!
# Geometry

Positions, sizes and rectangles on the canvas.
-/

namespace Wirework

structure Position where
  x : Double := .zero false
  y : Double := .zero false
  deriving DecidableEq, Inhabited

def Position.offset (p : Position) (dx dy : Double) : Position := ⟨p.x.add dx, p.y.add dy⟩

structure Size where
  width : Double
  height : Double
  deriving DecidableEq

/-- An extent of whole units. -/
def Size.ofNat (width height : Nat) : Size :=
  ⟨.ofRatio false width 1, .ofRatio false height 1⟩

instance : Inhabited Size := ⟨.ofNat 200 150⟩

structure Rect where
  position : Position := {}
  size : Size := default
  deriving DecidableEq, Inhabited

namespace Rect

def right (r : Rect) : Double := r.position.x.add r.size.width

def bottom (r : Rect) : Double := r.position.y.add r.size.height

def center (r : Rect) : Position :=
  ⟨r.position.x.add r.size.width.half, r.position.y.add r.size.height.half⟩

/-- Whether a point lies in the rectangle or on its border. -/
def contains (r : Rect) (p : Position) : Bool :=
  r.position.x.le p.x && p.x.le r.right && (r.position.y.le p.y && p.y.le r.bottom)

/-- Whether two rectangles have a point in common, unless no order of their borders says so. -/
def intersects (r other : Rect) : Bool :=
  !(r.right.lt other.position.x || other.right.lt r.position.x
    || r.bottom.lt other.position.y || other.bottom.lt r.position.y)

end Rect

end Wirework
