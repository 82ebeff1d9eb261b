import ImageChain.Failure

/-!
# Positions of a watermark

A mark is placed in a corner, in the middle of an edge, or in the centre of its base.  A mark that
is larger than its base hangs over it, so the coordinates of its corner may be negative.
-/

namespace ImageChain

/-- Where a mark is placed. -/
inductive Position where
  | topLeft
  | top
  | topRight
  | left
  | center
  | right
  | bottomLeft
  | bottom
  | bottomRight
  deriving DecidableEq, Repr

namespace Position

/-- All positions, row by row. -/
def all : List Position :=
  [topLeft, top, topRight, left, center, right, bottomLeft, bottom, bottomRight]

/-- The name of a position. -/
def name : Position → String
  | topLeft => "topLeft"
  | top => "top"
  | topRight => "topRight"
  | left => "left"
  | center => "center"
  | right => "right"
  | bottomLeft => "bottomLeft"
  | bottom => "bottom"
  | bottomRight => "bottomRight"

/-- The name of a position shown to a developer. -/
def label : Position → String
  | topLeft => "TopLeft"
  | top => "Top"
  | topRight => "TopRight"
  | left => "Left"
  | center => "Center"
  | right => "Right"
  | bottomLeft => "BottomLeft"
  | bottom => "Bottom"
  | bottomRight => "BottomRight"

/-- The position with exactly this name. -/
def parse (text : String) : Except Failure Position :=
  match all.find? (·.name == text) with
  | some position => .ok position
  | none => .error (.argument ("Unknown watermark position: " ++ text))

/-- The place of the left or upper edge of a mark that is centred on a side; half of an odd margin
is rounded towards zero. -/
def centred (base mark : Int) : Int :=
  (base - mark).tdiv 2

/-- The column at which a mark of width `mark` begins on a base of width `base`. -/
def column (position : Position) (base mark : Int) : Int :=
  match position with
  | topLeft | left | bottomLeft => 0
  | top | center | bottom => centred base mark
  | topRight | right | bottomRight => base - mark

/-- The row at which a mark of height `mark` begins on a base of height `base`. -/
def row (position : Position) (base mark : Int) : Int :=
  match position with
  | topLeft | top | topRight => 0
  | left | center | right => centred base mark
  | bottomLeft | bottom | bottomRight => base - mark

end Position

end ImageChain
