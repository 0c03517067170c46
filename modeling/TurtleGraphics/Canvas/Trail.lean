import TurtleGraphics.Canvas.Basic

/-!
# Canvases for watching a turtle

`Trail C` is a canvas of type `C` that also keeps every visit asked of it, refused ones included.
`Field` is an endless plane that has a size only in name and refuses nothing but its walls.
-/

namespace TurtleGraphics

structure Trail (C : Type) where
  canvas : C
  /-- The cells asked for, last one first. -/
  visits : List Point

namespace Trail

variable {C : Type}

def start (canvas : C) : Trail C := ⟨canvas, []⟩

def path (t : Trail C) : List Point := t.visits.reverse

instance [Canvas C] : Canvas (Trail C) where
  size t := Canvas.size t.canvas
  visit p := fun ⟨canvas, visits⟩ =>
    match Canvas.visit p canvas with
    | .ok _ canvas => .ok () ⟨canvas, p :: visits⟩
    | .error e canvas => .error e ⟨canvas, p :: visits⟩

end Trail

structure Field where
  size : Nat
  walls : List Point

namespace Field

instance : Canvas Field where
  size := size
  visit p := fun f => if p ∈ f.walls then .error (.outOfBounds p f.size) f else .ok () f

end Field

end TurtleGraphics
