import Formulary.Text.Digits

/-!
# Durations — spans of time in milliseconds

* `Duration.toString` — a duration in the largest unit that it fills: seconds with up to three
  places, or milliseconds; nothing at all is zero nanoseconds.
-/

namespace Formulary

/-- A span of time. -/
structure Duration where
  milliseconds : Nat
deriving DecidableEq, Repr, Inhabited

namespace Duration

/-- The duration of whole seconds. -/
def ofSeconds (n : Nat) : Duration := ⟨1000 * n⟩

/-- The written form in the largest unit that is filled. -/
protected def toString (d : Duration) : String :=
  let ms := d.milliseconds
  if ms = 0 then "0ns"
  else if ms < 1000 then toString ms ++ "ms"
  else
    let places := Text.padLeft 3 '0' (Nat.toDigits 10 (ms % 1000))
    let fraction := (places.reverse.dropWhile (· == '0')).reverse
    toString (ms / 1000) ++ (if fraction.isEmpty then "" else "." ++ String.ofList fraction) ++ "s"

instance : ToString Duration := ⟨Duration.toString⟩

end Duration
end Formulary
