set_option autoImplicit false

/-!
# Widths of floats

Scripts compute with floats of double width, and the fields of a player record are floats of
single width. A number that is made narrower is rounded to the nearest number of the smaller
format, ties to the even one; one that is made wider keeps its value.
-/

namespace ModHost

open Float.Model (Format UnpackedFloat)

/-- The nearest number of a format; what is no finite number stays. -/
def roundTo (format : Format) : UnpackedFloat → UnpackedFloat
  | .finite sign mantissa exponent _ => UnpackedFloat.round format sign mantissa exponent
  | x => x

def narrowed (x : Float) : Float32 := .ofModel (.pack (roundTo .binary32 x.toModel.unpack))

def widened (x : Float32) : Float := .ofModel (.pack (roundTo .binary64 x.toModel.unpack))

end ModHost
