import ContentFinder.Number.Binary

/-! Distances on a sphere with the mean radius of the earth, in kilometres. -/

namespace ContentFinder

open Number

def earthRadius : Float := 6371.0

def radians (degrees : Float) : Float :=
  degrees * (3.14159265358979323846 / 180.0)

def haversine (latitude longitude otherLatitude otherLongitude : Float) : Float :=
  let deltaLatitude := radians (otherLatitude - latitude)
  let deltaLongitude := radians (otherLongitude - longitude)
  let halfLatitude := (deltaLatitude / 2.0).sin
  let halfLongitude := (deltaLongitude / 2.0).sin
  let a := halfLatitude * halfLatitude +
    (radians latitude).cos * (radians otherLatitude).cos * (halfLongitude * halfLongitude)
  earthRadius * (2.0 * a.sqrt.atan2 (1.0 - a).sqrt)

/-- The distance of two points. Where the formula has no number for an answer, the sign of the
answer is plain if a coordinate was no number, and negative otherwise. -/
def distance (origin point : Double × Double) : Double :=
  let answer := Binary.ofFloat
    (haversine origin.1.toFloat origin.2.toFloat point.1.toFloat point.2.toFloat)
  if answer.isNaN then
    .notANumber !(origin.1.isNaN || origin.2.isNaN || point.1.isNaN || point.2.isNaN)
  else answer

end ContentFinder
