import UtilityMarkup.Number.Binary64

/-!
# Colors

Colors with real channels, and their hex notation with one byte per channel.
-/

namespace UtilityMarkup

/-- Channels are meant to lie between 0 and 1; what lies outside is cut off when it is written. -/
structure Color where
  red : Float
  green : Float
  blue : Float
  alpha : Float := 1
deriving BEq, Repr

namespace Color

def ofBytes (red green blue : UInt8) : Color :=
  ⟨red.toFloat / 255, green.toFloat / 255, blue.toFloat / 255, 1⟩

/-- The color seen through a paint of the given opacity. -/
def fade (color : Color) (opacity : Float) : Color :=
  { color with alpha := color.alpha * opacity }

def isTranslucent (color : Color) : Bool :=
  color.alpha != 1

/-- Cuts a channel off at 0 and 1, and leaves a NaN alone. -/
def clampUnit (channel : Float) : Float :=
  if channel < 0 then 0 else if 1 < channel then 1 else channel

def channelByte (channel : Float) : UInt8 :=
  .ofNatClamp (Number.nearestInt (clampUnit channel * 255)).toNat

def hexByte (byte : UInt8) : List Char :=
  [Nat.digitChar (byte.toNat / 16), Nat.digitChar (byte.toNat % 16)]

/-- The form `#rrggbb`, whatever the alpha. -/
def baseHex (color : Color) : String :=
  .ofList ('#' :: hexByte (channelByte color.red) ++ hexByte (channelByte color.green) ++
    hexByte (channelByte color.blue))

/-- The form `#rrggbb`, followed by the byte of an alpha that is not 1. -/
def hex (color : Color) : String :=
  color.baseHex ++
    if color.isTranslucent then .ofList (hexByte (channelByte color.alpha)) else ""

/-- Alpha in whole percent. -/
def percent (color : Color) : Nat :=
  (Number.nearestInt (clampUnit color.alpha * 100)).toNat

end Color

end UtilityMarkup
