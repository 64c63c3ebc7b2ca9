import StockResearch.Clock.Date

/-!
# Aware datetimes and the Tokyo clock

A timezone-aware `datetime` is a wall reading with its UTC offset; two of them
compare by the instants they name, whatever their offsets. The zone data of
`ZoneInfo("Asia/Tokyo")` is the system's: the model takes any zone that, as the
Tokyo clock always has, runs nine to ten hours ahead of UTC.

- `Timestamp`: an aware datetime.
- `Tokyo`: the zone data, `Tokyo.astimezone` and `Tokyo.combine`.
- `Tokyo.combine_le_iff`: on which days a time of day has passed at an instant.
-/

namespace StockResearch

/-- A timezone-aware `datetime`: what the wall clock reads, and the microseconds it
is ahead of UTC. -/
structure Timestamp where
  wall : DateTime
  utcoffset : Int
deriving DecidableEq

/-- The instant, in microseconds since 0001-01-01T00:00:00+00:00. -/
def Timestamp.instant (t : Timestamp) : Int := t.wall.micros - t.utcoffset

/-- The microseconds of an hour. -/
def hourMicros : Int := 3600000000

/-- The data of `ZoneInfo("Asia/Tokyo")`: its offset at an instant, and of a wall
reading. -/
structure Tokyo where
  utcoffset : Int → Int
  wallOffset : Int → Int
  utcoffset_ge : ∀ instant, 9 * hourMicros ≤ utcoffset instant
  utcoffset_le : ∀ instant, utcoffset instant ≤ 10 * hourMicros
  wallOffset_ge : ∀ wall, 9 * hourMicros ≤ wallOffset wall
  wallOffset_le : ∀ wall, wallOffset wall ≤ 10 * hourMicros

namespace Tokyo

/-- The clock without its historical offsets: nine hours ahead. -/
def standard : Tokyo where
  utcoffset _ := 9 * hourMicros
  wallOffset _ := 9 * hourMicros
  utcoffset_ge _ := le_refl _
  utcoffset_le _ := by decide
  wallOffset_ge _ := le_refl _
  wallOffset_le _ := by decide

/-- A reading of microseconds as a `datetime`, unless it leaves the range. -/
def reading? (micros : Int) : Option DateTime :=
  if 0 ≤ micros then
    if h : micros.toNat < maxMicros then some ⟨micros.toNat, h⟩ else none
  else none

theorem reading?_eq_some {micros : Int} {t : DateTime} (h : reading? micros = some t) :
    (t.micros : Int) = micros := by
  unfold reading? at h
  split at h
  · split at h
    · cases h
      exact Int.toNat_of_nonneg ‹_›
    · cases h
  · cases h

/-- `checked.astimezone(UTC)`; out of range is `datetime`'s `OverflowError`. -/
def asUtc (t : Timestamp) : Option DateTime := reading? t.instant

/-- `checked.astimezone(TOKYO)`: the Tokyo wall reading of an instant. -/
def astimezone (tokyo : Tokyo) (t : Timestamp) : Option DateTime := do
  let utc ← asUtc t
  reading? (utc.micros + tokyo.utcoffset utc.micros)

/-- `datetime.combine(day, time, TOKYO)`, as its instant. -/
def combine (tokyo : Tokyo) (day : Date) (time : Nat) : Int :=
  let wall : Int := day.ordinal * dayMicros + time
  wall - tokyo.wallOffset wall

/-- The Tokyo day of an instant is the day its wall reading falls on. -/
theorem astimezone_eq_some {tokyo : Tokyo} {t : Timestamp} {wall : DateTime}
    (h : tokyo.astimezone t = some wall) :
    t.instant + 9 * hourMicros ≤ wall.micros ∧ (wall.micros : Int) ≤ t.instant + 10 * hourMicros := by
  obtain ⟨utc, hutc, hwall⟩ := Option.bind_eq_some_iff.mp h
  have hinstant := reading?_eq_some hutc
  have hreading := reading?_eq_some hwall
  have hge := tokyo.utcoffset_ge utc.micros
  have hle := tokyo.utcoffset_le utc.micros
  omega

/-- Whether a time of the day, between one and twenty-three o'clock, has passed in
Tokyo: on every day before today and on no day after it. -/
theorem combine_le_iff {tokyo : Tokyo} {t : Timestamp} {wall : DateTime} {day : Date} {time : Nat}
    (h : tokyo.astimezone t = some wall) (hearly : hourMicros ≤ time)
    (hlate : time + hourMicros ≤ dayMicros) :
    tokyo.combine day time ≤ t.instant ↔ day < Date.ofDateTime wall ∨
      day = Date.ofDateTime wall ∧ tokyo.combine (Date.ofDateTime wall) time ≤ t.instant := by
  obtain ⟨hge, hle⟩ := astimezone_eq_some h
  have hoffset := tokyo.wallOffset_ge (day.ordinal * dayMicros + time)
  have hoffset' := tokyo.wallOffset_le (day.ordinal * dayMicros + time)
  have htoday : (Date.ofDateTime wall).ordinal = wall.micros / dayMicros := rfl
  rcases Nat.lt_trichotomy day.ordinal (Date.ofDateTime wall).ordinal with hlt | heq | hgt
  · have hpassed : tokyo.combine day time ≤ t.instant := by
      simp only [combine, hourMicros, dayMicros] at *
      omega
    exact ⟨fun _ => .inl hlt, fun _ => hpassed⟩
  · obtain rfl := Date.ext_ordinal heq
    exact ⟨fun hpassed => .inr ⟨rfl, hpassed⟩, by
      rintro (hlt | ⟨-, hpassed⟩)
      · exact absurd hlt (Nat.lt_irrefl _)
      · exact hpassed⟩
  · have hfuture : ¬ tokyo.combine day time ≤ t.instant := by
      simp only [combine, hourMicros, dayMicros] at *
      omega
    refine ⟨fun hpassed => absurd hpassed hfuture, ?_⟩
    rintro (hlt | ⟨rfl, -⟩)
    · exact absurd hlt (Nat.lt_asymm hgt)
    · exact absurd hgt (Nat.lt_irrefl _)

end Tokyo

end StockResearch
