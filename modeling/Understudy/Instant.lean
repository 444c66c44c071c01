/-!
# Instants and validity windows

An instant is a whole second and a fraction behind it.  A fraction of one second or more lies in a
leap second, which follows the second that it extends; instants are compared by their seconds first.
Moving an instant by a span of time takes account of the leap second in which the instant itself
lies, and of no other.

A window is open from its opening to its closing instant, both included, and at most for its
lifetime, which runs from the opening or else from the last update.  A lifetime that reaches beyond
the representable range never ends.
-/

namespace Understudy

/-- A span of time in nanoseconds; a negative one reaches back. -/
structure Duration where
  nanoseconds : Int
  deriving DecidableEq

namespace Duration

/-- The span of a number of milliseconds. -/
def ofMilliseconds (milliseconds : Int) : Duration :=
  ⟨milliseconds * 1000000⟩

/-- A number that may be absent stands for milliseconds. -/
instance : Coe (Option Int) (Option Duration) := ⟨Option.map ofMilliseconds⟩

end Duration

/-- A point in time within the representable range. -/
structure Instant where
  /-- The whole seconds since the start of 1970, none of them a leap second. -/
  second : Int
  /-- The nanoseconds behind them; in a leap second there are as many as a second has, or more. -/
  fraction : Nat
  afterEarliest : -8334601228800 ≤ second
  beforeLatest : second ≤ 8210266876799
  fraction_lt : fraction < 2000000000
  deriving DecidableEq

namespace Instant

/-- The first representable instant. -/
def earliest : Instant := ⟨-8334601228800, 0, by decide, by decide, by decide⟩

/-- The start of 1970. -/
def epoch : Instant := ⟨0, 0, by decide, by decide, by decide⟩

instance : Inhabited Instant := ⟨epoch⟩

/-- The place of an instant among all, by its second first and then by its fraction. -/
def place (instant : Instant) : Int :=
  instant.second * 2000000000 + instant.fraction

/-- The instant of a number of nanoseconds without leap seconds, if it is representable. -/
def ofNanoseconds? (nanoseconds : Int) : Option Instant :=
  let second := nanoseconds / 1000000000
  if inRange : -8334601228800 ≤ second ∧ second ≤ 8210266876799 then
    some ⟨second, (nanoseconds % 1000000000).toNat, inRange.1, inRange.2, by omega⟩
  else none

/-- The instant of a number of milliseconds, if it is representable. -/
def ofMilliseconds? (milliseconds : Int) : Option Instant :=
  ofNanoseconds? (milliseconds * 1000000)

/-- The instant a span of time later, if it is representable. -/
def after? (instant : Instant) (duration : Duration) : Option Instant :=
  let nanoseconds := instant.second * 1000000000 + instant.fraction + duration.nanoseconds
  if instant.fraction < 1000000000 ∨ duration.nanoseconds ≤ -1000000000 then
    ofNanoseconds? nanoseconds
  else if within : instant.fraction + duration.nanoseconds < 2000000000 then
    -- neither behind the leap second nor before the second that it extends
    some
      { instant with
        fraction := (instant.fraction + duration.nanoseconds).toNat
        fraction_lt := by omega }
  else ofNanoseconds? (nanoseconds - 1000000000)

end Instant

/-- When a mapping takes part; every limit is optional. -/
structure ValidityWindow where
  opens : Option Instant
  closes : Option Instant
  lifetime : Option Duration
  deriving DecidableEq, Inhabited

namespace ValidityWindow

/-- Whether `now` is no earlier than the opening. -/
def hasOpened (window : ValidityWindow) (now : Instant) : Bool :=
  window.opens.all fun opening => opening.place ≤ now.place

/-- Whether `now` is no later than the closing. -/
def isBeforeClosing (window : ValidityWindow) (now : Instant) : Bool :=
  window.closes.all fun closing => now.place ≤ closing.place

/-- Whether the lifetime has not ended. -/
def isAlive (window : ValidityWindow) (now updatedAt : Instant) : Bool :=
  window.lifetime.all fun lifetime =>
    ((window.opens.getD updatedAt).after? lifetime).all fun expiry => now.place ≤ expiry.place

/-- Whether the window holds `now`, for a mapping last updated at `updatedAt`. -/
def isValidAt (window : ValidityWindow) (now updatedAt : Instant) : Bool :=
  window.hasOpened now && window.isBeforeClosing now && window.isAlive now updatedAt

end ValidityWindow

end Understudy
