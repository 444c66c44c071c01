import Understudy.Instant

/-!
# Validity windows over all whole numbers

When a window holds an instant, compared with the same limits computed over all whole numbers.  Time
is counted in nanoseconds on a line with one leap second at most, the one in which the lifetime
begins if it begins in one; an instant in any other leap second stands at its end.  An end of the
lifetime that is not representable never comes.  Behind the range this makes no difference, since no
instant is that late; a lifetime that ends before the range is over at every instant, and the window
holds as if it had none.
-/

namespace Understudy

namespace Instant

/-- The nanoseconds since the start of 1970 where no leap second takes time but that of `origin`. -/
def elapsed (origin instant : Instant) : Int :=
  if 1000000000 ≤ origin.fraction ∧ origin.second = instant.second then
    instant.second * 1000000000 + instant.fraction
  else if 1000000000 ≤ origin.fraction ∧ origin.second < instant.second then
    (instant.second + 1) * 1000000000 + min instant.fraction 1000000000
  else instant.second * 1000000000 + min instant.fraction 1000000000

/-- The instant lies in no leap second but that of `origin`. -/
def IsCountedFrom (origin instant : Instant) : Prop :=
  instant.fraction < 1000000000 ∨
    1000000000 ≤ origin.fraction ∧ origin.second = instant.second

variable {origin instant : Instant}

/-- Outside of leap seconds the count is that of all nanoseconds. -/
theorem elapsed_of_fraction_lt (outside : origin.fraction < 1000000000)
    (otherOutside : instant.fraction < 1000000000) :
    origin.elapsed instant = instant.second * 1000000000 + instant.fraction := by
  rw [elapsed]
  omega

theorem elapsed_self (origin : Instant) :
    origin.elapsed origin = origin.second * 1000000000 + origin.fraction := by
  rw [elapsed]
  omega

@[simp]
theorem elapsed_earliest (origin : Instant) :
    origin.elapsed earliest = -8334601228800000000000 := by
  have afterEarliest := origin.afterEarliest
  simp only [elapsed, earliest]
  omega

theorem elapsed_earliest_le (origin instant : Instant) :
    origin.elapsed earliest ≤ origin.elapsed instant := by
  have afterEarliest := instant.afterEarliest
  rw [elapsed_earliest, elapsed]
  omega

/-- The count follows the order of instants up to one whose own leap second is counted. -/
theorem IsCountedFrom.place_le_iff (counted : origin.IsCountedFrom instant) (now : Instant) :
    now.place ≤ instant.place ↔ origin.elapsed now ≤ origin.elapsed instant := by
  have bound := now.fraction_lt
  have instantBound := instant.fraction_lt
  rw [IsCountedFrom] at counted
  simp only [place, elapsed]
  omega

theorem ofNanoseconds?_eq_some_iff {nanoseconds : Int} :
    ofNanoseconds? nanoseconds = some instant ↔
      instant.fraction < 1000000000 ∧
        instant.second * 1000000000 + instant.fraction = nanoseconds := by
  rcases instant with ⟨second, fraction, afterEarliest, beforeLatest, fraction_lt⟩
  simp only [ofNanoseconds?]
  split
  next inRange =>
    simp only [Option.some.injEq, Instant.mk.injEq]
    omega
  next outside =>
    simp only [reduceCtorEq, false_iff]
    omega

theorem ofNanoseconds?_eq_none_iff {nanoseconds : Int} :
    ofNanoseconds? nanoseconds = none ↔
      nanoseconds < -8334601228800000000000 ∨ 8210266876800000000000 ≤ nanoseconds := by
  simp only [ofNanoseconds?]
  split
  next inRange =>
    simp only [reduceCtorEq, false_iff]
    omega
  next outside =>
    simp only [true_iff]
    omega

/-- Moving an instant adds to the count, and leads into no leap second but its own. -/
theorem elapsed_of_after?_eq_some {duration : Duration}
    (later : origin.after? duration = some instant) :
    origin.IsCountedFrom instant ∧
      origin.elapsed instant = origin.elapsed origin + duration.nanoseconds := by
  have bound := origin.fraction_lt
  rw [IsCountedFrom, elapsed_self, elapsed]
  simp only [after?] at later
  split at later
  next leaves =>
    obtain ⟨outside, same⟩ := ofNanoseconds?_eq_some_iff.mp later
    omega
  next stays =>
    split at later
    next within =>
      obtain rfl := Option.some.inj later
      simp only [and_true]
      omega
    next behind =>
      obtain ⟨outside, same⟩ := ofNanoseconds?_eq_some_iff.mp later
      omega

/-- A time that is not representable lies before the range, or no instant lies behind it. -/
theorem lt_or_forall_le_of_after?_eq_none {duration : Duration}
    (missing : origin.after? duration = none) :
    origin.elapsed origin + duration.nanoseconds < origin.elapsed earliest ∨
      ∀ now : Instant, origin.elapsed now ≤ origin.elapsed origin + duration.nanoseconds := by
  have bound := origin.fraction_lt
  have afterEarliest := origin.afterEarliest
  have beforeLatest := origin.beforeLatest
  have each : ∀ now : Instant, now.second ≤ 8210266876799 ∧ now.fraction < 2000000000 :=
    fun now => ⟨now.beforeLatest, now.fraction_lt⟩
  rw [elapsed_self, elapsed_earliest]
  simp only [after?] at missing
  split at missing
  next leaves =>
    refine (ofNanoseconds?_eq_none_iff.mp missing).imp_right fun beyond now => ?_
    have inRange := each now
    rw [elapsed]
    omega
  next stays =>
    split at missing
    next within => cases missing
    next behind =>
      -- behind its own leap second the origin is not before the range any more
      refine (ofNanoseconds?_eq_none_iff.mp missing).imp (fun before => by omega)
        fun beyond now => ?_
      have inRange := each now
      rw [elapsed]
      omega

end Instant

namespace ValidityWindow

variable (window : ValidityWindow) (now updatedAt : Instant)

/-- The instant at which a lifetime begins. -/
def origin : Instant :=
  window.opens.getD updatedAt

/-- The nanosecond at which a lifetime ends, representable or not. -/
def expiry (lifetime : Duration) : Int :=
  (window.origin updatedAt).elapsed (window.origin updatedAt) + lifetime.nanoseconds

/-- The instant is no earlier than the opening and no later than the closing. -/
structure IsOpen : Prop where
  opened : ∀ opening, window.opens = some opening → opening.place ≤ now.place
  notClosed : ∀ closing, window.closes = some closing → now.place ≤ closing.place

/-- The window holds the instant, where the end of the lifetime may be any whole number. -/
structure Holds : Prop extends window.IsOpen now where
  notExpired : ∀ lifetime, window.lifetime = some lifetime →
    (window.origin updatedAt).elapsed now ≤ window.expiry updatedAt lifetime

/-- The lifetime ends before the first representable instant. -/
def EndsBeforeRange : Prop :=
  ∃ lifetime, window.lifetime = some lifetime ∧
    window.expiry updatedAt lifetime < (window.origin updatedAt).elapsed Instant.earliest

variable {window now updatedAt}

/-- A lifetime that ends before the first representable instant is over. -/
theorem not_holds_of_endsBeforeRange (ends : window.EndsBeforeRange updatedAt) :
    ¬window.Holds now updatedAt := by
  intro holds
  obtain ⟨lifetime, present, before⟩ := ends
  have notExpired := holds.notExpired lifetime present
  have afterEarliest := (window.origin updatedAt).elapsed_earliest_le now
  omega

theorem isOpen_iff :
    (window.hasOpened now && window.isBeforeClosing now) = true ↔ window.IsOpen now := by
  rw [hasOpened, isBeforeClosing, Bool.and_eq_true, Option.all_eq_true, Option.all_eq_true]
  simp only [decide_eq_true_eq]
  exact ⟨fun ⟨opened, notClosed⟩ => ⟨opened, notClosed⟩,
    fun ⟨opened, notClosed⟩ => ⟨opened, notClosed⟩⟩

/-- An expiry behind the range is behind every instant, so that dropping it makes no difference. -/
theorem all_after?_iff (lifetime : Duration) :
    ((window.origin updatedAt).after? lifetime).all (fun expiry => now.place ≤ expiry.place) =
        true ↔
      (window.origin updatedAt).elapsed now ≤ window.expiry updatedAt lifetime ∨
        window.expiry updatedAt lifetime <
          (window.origin updatedAt).elapsed Instant.earliest := by
  rw [expiry]
  have afterEarliest := (window.origin updatedAt).elapsed_earliest_le
  cases later : (window.origin updatedAt).after? lifetime with
  | none =>
      simp only [Option.all_none, true_iff]
      exact (Instant.lt_or_forall_le_of_after?_eq_none later).symm.imp_left fun behind => behind now
  | some instant =>
      obtain ⟨counted, sum⟩ := Instant.elapsed_of_after?_eq_some later
      rw [Option.all_some, decide_eq_true_eq, counted.place_le_iff now, ← sum,
        or_iff_left (Int.not_lt.mpr (afterEarliest instant))]

theorem isAlive_iff :
    window.isAlive now updatedAt = true ↔
      ∀ lifetime, window.lifetime = some lifetime →
        (window.origin updatedAt).elapsed now ≤ window.expiry updatedAt lifetime ∨
          window.expiry updatedAt lifetime <
            (window.origin updatedAt).elapsed Instant.earliest := by
  rw [isAlive, Option.all_eq_true]
  exact forall₂_congr fun lifetime _ => all_after?_iff lifetime

theorem isValidAt_iff :
    window.isValidAt now updatedAt = true ↔
      window.Holds now updatedAt ∨ window.IsOpen now ∧ window.EndsBeforeRange updatedAt := by
  rw [isValidAt, Bool.and_eq_true, isOpen_iff, isAlive_iff]
  constructor
  · rintro ⟨isOpen, alive⟩
    cases present : window.lifetime with
    | none => exact .inl ⟨isOpen, by simp [present]⟩
    | some lifetime =>
        rcases alive lifetime present with notExpired | before
        · exact .inl ⟨isOpen, by simpa [present] using notExpired⟩
        · exact .inr ⟨isOpen, lifetime, present, before⟩
  · rintro (⟨isOpen, notExpired⟩ | ⟨isOpen, lifetime, present, before⟩)
    · exact ⟨isOpen, fun lifetime present => .inl (notExpired lifetime present)⟩
    · refine ⟨isOpen, fun other otherPresent => .inr ?_⟩
      obtain rfl : lifetime = other := Option.some.inj (present.symm.trans otherPresent)
      exact before

/-- Where no leap second is involved the end of a lifetime is the plain sum of nanoseconds. -/
theorem holds_iff_of_fraction_lt (outside : (window.origin updatedAt).fraction < 1000000000)
    (nowOutside : now.fraction < 1000000000) :
    window.Holds now updatedAt ↔ window.IsOpen now ∧
      ∀ lifetime, window.lifetime = some lifetime →
        now.second * 1000000000 + now.fraction ≤
          (window.origin updatedAt).second * 1000000000 + (window.origin updatedAt).fraction +
            lifetime.nanoseconds := by
  rw [← Instant.elapsed_of_fraction_lt outside nowOutside, ← Instant.elapsed_self]
  exact ⟨fun holds => ⟨holds.toIsOpen, holds.notExpired⟩,
    fun ⟨isOpen, notExpired⟩ => ⟨isOpen, notExpired⟩⟩

/-- Over whole numbers a longer lifetime takes no instant away. -/
theorem Holds.of_shorter {shorter longer : Duration} (present : window.lifetime = some shorter)
    (isLonger : shorter.nanoseconds ≤ longer.nanoseconds) (holds : window.Holds now updatedAt) :
    { window with lifetime := some longer }.Holds now updatedAt := by
  refine ⟨⟨holds.opened, holds.notClosed⟩, ?_⟩
  rintro _ ⟨⟩
  have notExpired := holds.notExpired shorter present
  simp only [expiry, origin] at notExpired ⊢
  omega

end ValidityWindow

open ValidityWindow

/-- An open window holds an instant exactly if the lifetime is not over, computed over all whole
numbers, or ends before the range.  Any other lifetime, however far it reaches, holds no instant
after its end, and making it longer loses none.  Outside of leap seconds the end is the plain sum of
the nanoseconds. -/
theorem window_holds_over_whole_numbers_or_ends_before_range
    (window : ValidityWindow) (now updatedAt : Instant) :
    (window.isValidAt now updatedAt = true ↔
      window.Holds now updatedAt ∨ window.IsOpen now ∧ window.EndsBeforeRange updatedAt) ∧
    (¬window.EndsBeforeRange updatedAt →
      (window.isValidAt now updatedAt = true ↔ window.Holds now updatedAt) ∧
      ∀ shorter longer, window.lifetime = some shorter →
        shorter.nanoseconds ≤ longer.nanoseconds → window.isValidAt now updatedAt = true →
        { window with lifetime := some longer }.isValidAt now updatedAt = true) ∧
    ((window.origin updatedAt).fraction < 1000000000 → now.fraction < 1000000000 →
      (window.Holds now updatedAt ↔ window.IsOpen now ∧
        ∀ lifetime, window.lifetime = some lifetime →
          now.second * 1000000000 + now.fraction ≤
            (window.origin updatedAt).second * 1000000000 + (window.origin updatedAt).fraction +
              lifetime.nanoseconds)) := by
  refine ⟨isValidAt_iff, fun notBefore => ?_, holds_iff_of_fraction_lt⟩
  have agrees : window.isValidAt now updatedAt = true ↔ window.Holds now updatedAt := by
    rw [isValidAt_iff, or_iff_left fun ends => notBefore ends.2]
  refine ⟨agrees, fun shorter longer present isLonger valid => ?_⟩
  exact isValidAt_iff.mpr (.inl ((agrees.mp valid).of_shorter present isLonger))

/-- A lifetime of one second that begins half a second into the leap second of 2016 is over half a
second into 2017, and so before the first whole second of that year. -/
example :
    let updatedAt : Instant := ⟨1483228799, 1500000000, by decide, by decide, by decide⟩
    let window : ValidityWindow := ⟨none, none, some (.ofMilliseconds 1000)⟩
    window.isValidAt ⟨1483228800, 500000000, by decide, by decide, by decide⟩ updatedAt = true ∧
      window.isValidAt ⟨1483228801, 0, by decide, by decide, by decide⟩ updatedAt = false := by
  decide

/-- A lifetime that ends before the range never ends, although over whole numbers it is over, and a
longer one that still ends before the update is. -/
theorem lifetime_ending_before_range_never_ends :
    let endless : ValidityWindow := ⟨none, none, some (.ofMilliseconds (-9000000000000000))⟩
    let ended : ValidityWindow := ⟨none, none, some (.ofMilliseconds (-1))⟩
    endless.isValidAt .epoch .epoch = true ∧ ¬endless.Holds .epoch .epoch ∧
      ended.isValidAt .epoch .epoch = false := by
  intro endless ended
  have before : endless.EndsBeforeRange .epoch := ⟨_, rfl, by decide⟩
  exact ⟨by decide, not_holds_of_endsBeforeRange before, by decide⟩

end Understudy
