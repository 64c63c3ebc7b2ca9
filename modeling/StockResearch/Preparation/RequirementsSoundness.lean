import StockResearch.Preparation.RunRequirements

/-!
# What resolved requirements promise

The resolver decides with the texts of days; its promise is about the days. On the
calendar's own dates, which are all spelled `YYYY-MM-DD`, text order is day order, and
the promise about price and FX dates holds of every resolution. The bounds of the
declared period may be spelled otherwise, and then the text comparison can accept a
period that ends before the check day.

- `Closed`, `Elapsed`, `LastSession`: sessions, UTC days and the last session, by instants.
- `Resolved`, `Sound`: the promise.
- `ApplicablePeriod.Misread`: a period accepted on the wrong side of a bound.
- `requirements_sound_iff`: the promise is kept unless the period is misread.
-/

namespace StockResearch.Preparation

/-- The session of a day is over. -/
def Closed (tokyo : Tokyo) (checked : Timestamp) (day : Date) : Prop :=
  tokyo.combine day sessionClose ≤ checked.instant

instance (tokyo : Tokyo) (checked : Timestamp) (day : Date) : Decidable (Closed tokyo checked day) :=
  inferInstanceAs (Decidable (_ ≤ _))

/-- The UTC day has completely elapsed. -/
def Elapsed (checked : Timestamp) (day : Date) : Prop :=
  ((day.ordinal + 1) * dayMicros : Int) ≤ checked.instant

instance (checked : Timestamp) (day : Date) : Decidable (Elapsed checked day) :=
  inferInstanceAs (Decidable (_ ≤ _))

/-- The last trading day whose session is over. -/
def LastSession (tokyo : Tokyo) (calendar : TradingDates) (checked : Timestamp) (last : Date) :
    Prop :=
  last ∈ calendar.days ∧ Closed tokyo checked last ∧
    ∀ day ∈ calendar.days, Closed tokyo checked day → day ≤ last

/-- `start` is the three-year start of the day after `last`. -/
def RequiredStart (last start : Date) : Prop :=
  (last.add? 1).bind threeYearStart = some start

/-- The trading days from `start` to `last`. -/
def requiredDays (calendar : TradingDates) (start last : Date) : List Date :=
  calendar.days.filter fun day => start ≤ day ∧ day ≤ last

/-- The promise of a resolution that found `last` and `start`. -/
structure Resolved (tokyo : Tokyo) (calendar : TradingDates) (checked : Timestamp)
    (today last start : Date) (r : RunRequirements) : Prop where
  lastSession : LastSession tokyo calendar checked last
  requiredStart : RequiredStart last start
  periodStart : r.periodStart = start.isoformat
  covers : calendar.period.Covers start today
  priceDates : r.priceDates = (requiredDays calendar start last).map Date.isoformat
  increasing : (requiredDays calendar start last).Pairwise (· < ·)
  fxDates : r.fxDates =
    ((requiredDays calendar start last).filter fun day => Elapsed checked day).map Date.isoformat
  fxPrefix : r.fxDates <+: r.priceDates
  requiredPriceEnd : r.requiredPriceEnd = r.priceDates.getLast?
  priceEnd : r.requiredPriceEnd = some last.isoformat
  requiredFxEnd : r.requiredFxEnd = r.fxDates.getLast?
  sessions : ∀ day ∈ r.priceDates, profileEffectiveOn.isoformat ≤ day →
    ∃ closed, sessionEnd tokyo day = .ok closed

/-- The promise of `resolve_requirements`: what a resolved bundle holds, and that a
calendar which does not cover the range leaves the bundle pending and empty. -/
structure Sound (tokyo : Tokyo) (calendar : TradingDates) (checked : Timestamp) (today : Date)
    (r : RunRequirements) : Prop where
  resolved : r.status = .resolved → ∃ last start, Resolved tokyo calendar checked today last start r
  uncovered : ∀ start : Date, r.periodStart = start.isoformat →
    ¬ calendar.period.Covers start today →
      r.status = .pending ∧ r.priceDates = [] ∧ r.fxDates = []

/-- The texts of the period enclose the range, but a bound spelled otherwise than
`YYYY-MM-DD` names a day that falls short of it. -/
def ApplicablePeriod.Misread (period : ApplicablePeriod) (start today : Date) : Prop :=
  period.startDate ≤ start.isoformat ∧ today.isoformat ≤ period.endDate ∧
    (¬ Date.Canonical period.startDate period.first ∧ start < period.first ∨
      ¬ Date.Canonical period.endDate period.last ∧ period.last < today)

/-- A period whose texts enclose a range covers it as days, unless it is misread. -/
theorem ApplicablePeriod.covers_of_texts {period : ApplicablePeriod} {start today : Date}
    (hle : start ≤ today) (hstart : period.startDate ≤ start.isoformat)
    (hend : today.isoformat ≤ period.endDate) :
    period.Covers start today ↔ ¬ period.Misread start today := by
  rw [ApplicablePeriod.covers_iff hle]
  constructor
  · rintro ⟨hfirst, hlast⟩ ⟨-, -, ⟨-, hlt⟩ | ⟨-, hlt⟩⟩
    · exact Date.not_lt.mpr hfirst hlt
    · exact Date.not_lt.mpr hlast hlt
  · intro hread
    constructor
    · -- a start spelled as printed compares like its day
      by_contra hnot
      refine hread ⟨hstart, hend, .inl ⟨fun hcanonical => hnot ?_, Date.not_le.mp hnot⟩⟩
      rw [← hcanonical] at hstart
      exact Date.isoformat_le_iff.mp hstart
    · by_contra hnot
      refine hread ⟨hstart, hend, .inr ⟨fun hcanonical => hnot ?_, Date.not_le.mp hnot⟩⟩
      rw [← hcanonical] at hend
      exact Date.isoformat_le_iff.mp hend

/-- A period with both bounds spelled `YYYY-MM-DD` is never misread. -/
theorem ApplicablePeriod.Canonical.not_misread {period : ApplicablePeriod}
    (h : period.Canonical) (start today : Date) : ¬ period.Misread start today := by
  rintro ⟨-, -, ⟨hspelled, -⟩ | ⟨hspelled, -⟩⟩
  · exact hspelled h.1
  · exact hspelled h.2

/-! ## The resolver, on days -/

section

variable {tokyo : Tokyo} {calendar : TradingDates} {checked : Timestamp} {today : Date}

/-- The cut-off: every session up to it is over, every later one is not. -/
theorem cutoff_closed {cutoff : Date} (htoday : tokyoDay tokyo checked = .ok today)
    (h : cutoffDay tokyo checked today = .ok cutoff) (day : Date) :
    Closed tokyo checked day ↔ day ≤ cutoff := by
  unfold cutoffDay at h
  obtain ⟨wall, hwall, htoday⟩ := bind_eq_ok.mp htoday
  rw [fetch_eq_ok] at hwall
  rw [pure_eq_ok] at htoday
  subst htoday
  rw [Closed, Tokyo.combine_le_iff hwall (by decide) (by decide)]
  split at h
  · -- today's session is over, so today is the cut-off
    rename_i hclosed
    rw [pure_eq_ok] at h
    subst h
    constructor
    · rintro (hlt | ⟨rfl, -⟩)
      · exact Nat.le_of_lt hlt
      · exact Nat.le_refl _
    · intro hle
      rcases Nat.lt_or_eq_of_le hle with hlt | heq
      · exact .inl hlt
      · exact .inr ⟨Date.ext_ordinal heq, hclosed⟩
  · -- it is not, so yesterday is
    rename_i hopen
    have hcutoff := Date.sub?_eq_some_iff.mp (fetch_eq_ok.mp h)
    constructor
    · rintro (hlt | ⟨-, hclosed⟩)
      · rw [Date.lt_def] at hlt
        rw [Date.le_def]
        omega
      · exact absurd hclosed hopen
    · intro hle
      rw [Date.le_def] at hle
      exact .inl (show day.ordinal < _ by omega)

/-- The last of the completed texts is the text of the last session. -/
theorem lastSession_of_getLast {cutoff : Date} {text : String}
    (hclosed : ∀ day, Closed tokyo checked day ↔ day ≤ cutoff)
    (h : (calendar.dates.filter fun day => day ≤ cutoff.isoformat).getLast? = some text) :
    ∃ last, LastSession tokyo calendar checked last ∧ last.isoformat = text := by
  rw [calendar.filter_dates (p := fun d => decide (d ≤ cutoff))
    (fun d => by simp only [Date.isoformat_le_iff]), List.getLast?_map] at h
  obtain ⟨last, hlast, htext⟩ := Option.map_eq_some_iff.mp h
  have hmem := List.mem_of_getLast? hlast
  obtain ⟨hday, hcutoff⟩ := List.mem_filter.mp hmem
  refine ⟨last, ⟨hday, (hclosed last).mpr (of_decide_eq_true hcutoff), fun day hday' hday => ?_⟩,
    htext⟩
  -- the completed days ascend, so none comes after the last
  have hcompleted : day ∈ calendar.days.filter fun d => decide (d ≤ cutoff) :=
    List.mem_filter.mpr ⟨hday', decide_eq_true ((hclosed day).mp hday)⟩
  obtain ⟨front, hfront⟩ := List.getLast?_eq_some_iff.mp hlast
  have hascending := calendar.ascending.filter (fun d => decide (d ≤ cutoff))
  rw [hfront] at hcompleted hascending
  rcases List.mem_append.mp hcompleted with hfront | hlast
  · exact Nat.le_of_lt ((List.pairwise_append.mp hascending).2.2 day hfront last
      List.mem_cons_self)
  · rw [List.mem_singleton.mp hlast]
    exact Nat.le_refl _

theorem no_session_of_nil {cutoff : Date}
    (hclosed : ∀ day, Closed tokyo checked day ↔ day ≤ cutoff)
    (h : (calendar.dates.filter fun day => day ≤ cutoff.isoformat) = []) (last : Date) :
    ¬ LastSession tokyo calendar checked last := by
  intro hlast
  rw [calendar.filter_dates (p := fun d => decide (d ≤ cutoff))
    (fun d => by simp only [Date.isoformat_le_iff]), List.map_eq_nil_iff] at h
  have hmem : last ∈ calendar.days.filter fun d => decide (d ≤ cutoff) :=
    List.mem_filter.mpr ⟨hlast.1, decide_eq_true ((hclosed last).mp hlast.2.1)⟩
  rw [h] at hmem
  cases hmem

/-- There is one last session. -/
theorem LastSession.unique {a b : Date} (ha : LastSession tokyo calendar checked a)
    (hb : LastSession tokyo calendar checked b) : a = b :=
  Date.ext_ordinal (Nat.le_antisymm (hb.2.2 a ha.1 ha.2.1) (ha.2.2 b hb.1 hb.2.1))

/-- A UTC day has elapsed when it is before the day UTC reads. -/
theorem elapsed_iff {utc : DateTime} {utcCompleted : Date} (hutc : Tokyo.asUtc checked = some utc)
    (h : (Date.ofDateTime utc).sub? 1 = some utcCompleted) (day : Date) :
    Elapsed checked day ↔ day ≤ utcCompleted := by
  have hinstant := Tokyo.reading?_eq_some hutc
  have hcompleted := Date.sub?_eq_some_iff.mp h
  have htoday : (Date.ofDateTime utc).ordinal = utc.micros / dayMicros := rfl
  rw [Elapsed, ← hinstant, Date.le_def]
  simp only [dayMicros] at *
  omega

/-- The day after a trading day's text is the day after that day. -/
theorem dayAfter_eq_ok {day exclusive : Date} (hday : day ∈ calendar.days)
    (h : dayAfter day.isoformat = .ok exclusive) : day.add? 1 = some exclusive := by
  obtain ⟨on, hon, h⟩ := bind_eq_ok.mp h
  rw [parseDate, fetch_eq_ok, calendar.days_read day hday] at hon
  cases hon
  exact fetch_eq_ok.mp h

/-- The texts between two days' texts are those of the days between them. -/
theorem priceDates_eq (start last : Date) :
    (calendar.dates.filter fun day => start.isoformat ≤ day ∧ day ≤ last.isoformat) =
      (requiredDays calendar start last).map Date.isoformat := by
  rw [calendar.filter_dates (p := fun d => decide (start ≤ d ∧ d ≤ last))
    (fun d => by simp only [Date.isoformat_le_iff]), requiredDays]

/-- The elapsed texts among required days. -/
theorem fxDates_eq (days : List Date) {utcCompleted : Date}
    (h : ∀ day, Elapsed checked day ↔ day ≤ utcCompleted) :
    ((days.map Date.isoformat).filter fun day => day ≤ utcCompleted.isoformat) =
      (days.filter fun day => Elapsed checked day).map Date.isoformat := by
  rw [List.filter_map]
  congr 1
  apply List.filter_congr
  intro day _
  simp only [Function.comp_apply, Date.isoformat_le_iff, h]

/-- On an ascending list, the elements up to a bound come first. -/
theorem filter_prefix {days : List Date} {bound : Date} (h : days.Pairwise (· < ·)) :
    (days.filter fun day => day ≤ bound) <+: days := by
  induction days with
  | nil => exact List.prefix_refl _
  | cons day days ih =>
    obtain ⟨hday, hdays⟩ := List.pairwise_cons.mp h
    by_cases hle : day ≤ bound
    · rw [List.filter_cons_of_pos (by simpa using hle)]
      exact (List.prefix_cons_inj day).mpr (ih hdays)
    · -- past the bound, nothing later is selected
      have hnone : (day :: days).filter (fun day => day ≤ bound) = [] := by
        rw [List.filter_eq_nil_iff]
        intro other hother hbound
        rcases List.mem_cons.mp hother with rfl | hother
        · exact hle (of_decide_eq_true hbound)
        · exact hle (Nat.le_trans (Nat.le_of_lt (hday other hother)) (of_decide_eq_true hbound))
      rw [hnone]
      exact List.nil_prefix

/-- What one successful resolution computed, on days. -/
structure Computed (tokyo : Tokyo) (calendar : TradingDates) (checked : Timestamp) (today start : Date)
    (r : RunRequirements) : Prop where
  periodStart : r.periodStart = start.isoformat
  start_le : start ≤ today
  requiredStart : ∀ last, LastSession tokyo calendar checked last → RequiredStart last start
  last_le : ∀ last, LastSession tokyo calendar checked last → last ≤ today
  resolved_iff : r.status = .resolved ↔
    (profileEffectiveOn ≤ today ∧ today < profileRecheckOn) ∧
      (∃ last, LastSession tokyo calendar checked last) ∧
      calendar.period.startDate ≤ start.isoformat ∧ today.isoformat ≤ calendar.period.endDate
  pending : r.status = .pending → r.priceDates = [] ∧ r.fxDates = []
  resolved : r.status = .resolved → ∀ last, LastSession tokyo calendar checked last →
    r.requiredPriceEnd = some last.isoformat ∧
      r.priceDates = (requiredDays calendar start last).map Date.isoformat ∧
      r.fxDates = ((requiredDays calendar start last).filter fun day =>
        Elapsed checked day).map Date.isoformat ∧
      r.fxDates <+: r.priceDates ∧ r.requiredFxEnd = r.fxDates.getLast?

theorem reasonIf_eq_nil {p : Prop} [Decidable p] {reason : String} :
    reasonIf p reason = [] ↔ ¬ p := by
  unfold reasonIf
  split <;> simp_all

/-- No reason is left: the profile is in effect, a session is over, and the texts of
the period enclose the range. -/
theorem requirementReasons_eq_nil {start : Date} {completed : List String} :
    requirementReasons calendar today start completed = [] ↔
      (profileEffectiveOn ≤ today ∧ today < profileRecheckOn) ∧ completed ≠ [] ∧
        calendar.period.startDate ≤ start.isoformat ∧ today.isoformat ≤ calendar.period.endDate := by
  simp only [requirementReasons, List.append_eq_nil_iff, reasonIf_eq_nil, not_not, String.not_lt]
  constructor
  · rintro ⟨⟨⟨hwindow, hend⟩, hcompleted⟩, hstart⟩
    exact ⟨hwindow, hcompleted, hstart, hend⟩
  · rintro ⟨hwindow, hcompleted, hstart, hend⟩
    exact ⟨⟨⟨hwindow, hend⟩, hcompleted⟩, hstart⟩

theorem cutoffDay_le {cutoff : Date} (h : cutoffDay tokyo checked today = .ok cutoff) :
    cutoff ≤ today := by
  unfold cutoffDay at h
  split at h
  · rw [pure_eq_ok] at h
    subst h
    exact Nat.le_refl _
  · have hcutoff := Date.sub?_eq_some_iff.mp (fetch_eq_ok.mp h)
    rw [Date.le_def]
    omega

/-- The start found is the required start of the last session, and not after today. -/
theorem requiredStart_of_completed {cutoff exclusive start : Date}
    (hclosed : ∀ day, Closed tokyo checked day ↔ day ≤ cutoff) (hcutoff : cutoff ≤ today)
    (hexclusive : endExclusive today
      (calendar.dates.filter fun day => day ≤ cutoff.isoformat).getLast? = .ok exclusive)
    (hstart : threeYearStart exclusive = some start) :
    (∀ last, LastSession tokyo calendar checked last → RequiredStart last start) ∧
      start ≤ today := by
  have hbefore := threeYearStart_lt hstart
  rw [Date.lt_def] at hbefore
  rw [Date.le_def] at hcutoff ⊢
  cases hlast : (calendar.dates.filter fun day => day ≤ cutoff.isoformat).getLast? with
  -- no session is over
  | none =>
    rw [hlast] at hexclusive
    have hnext := Date.add?_eq_some_iff.mp (fetch_eq_ok.mp hexclusive)
    constructor
    · intro last hsession
      exact absurd hsession (no_session_of_nil hclosed (List.getLast?_eq_none_iff.mp hlast) last)
    · omega
  -- the last one that is gives the end of the period
  | some text =>
    rw [hlast] at hexclusive
    obtain ⟨last, hsession, rfl⟩ := lastSession_of_getLast hclosed hlast
    have hnext := dayAfter_eq_ok hsession.1 hexclusive
    have hle := (hclosed last).mp hsession.2.1
    have hordinal := Date.add?_eq_some_iff.mp hnext
    rw [Date.le_def] at hle
    constructor
    · intro other hother
      rw [← hsession.unique hother, RequiredStart, hnext]
      exact hstart
    · omega

/-- A successful resolution, read on days. -/
theorem requirements_computed {checkedAt : String} {r : RunRequirements}
    (htoday : tokyoDay tokyo checked = .ok today)
    (h : requirements tokyo calendar checked checkedAt today = .ok r) :
    ∃ start, Computed tokyo calendar checked today start r := by
  obtain ⟨cutoff, hcutoff, h⟩ := bind_eq_ok.mp h
  obtain ⟨exclusive, hexclusive, h⟩ := bind_eq_ok.mp h
  obtain ⟨start, hstart, h⟩ := bind_eq_ok.mp h
  obtain ⟨utc, hutc, h⟩ := bind_eq_ok.mp h
  obtain ⟨utcCompleted, hcompleted, h⟩ := bind_eq_ok.mp h
  rw [threeYearStartOf, fetch_eq_ok] at hstart
  rw [fetch_eq_ok] at hutc hcompleted
  have hclosed := cutoff_closed htoday hcutoff
  have helapsed := elapsed_iff hutc hcompleted
  obtain ⟨hrequired, hle⟩ := requiredStart_of_completed hclosed (cutoffDay_le hcutoff) hexclusive
    hstart
  -- a last session is not after today
  have hlast : ∀ last, LastSession tokyo calendar checked last → last ≤ today :=
    fun last hlast => Nat.le_trans ((hclosed last).mp hlast.2.1) (cutoffDay_le hcutoff)
  have hsession : (calendar.dates.filter fun day => day ≤ cutoff.isoformat) ≠ [] ↔
      ∃ last, LastSession tokyo calendar checked last := by
    constructor
    · intro hne
      obtain ⟨text, htext⟩ := Option.isSome_iff_exists.mp (List.getLast?_isSome.mpr hne)
      obtain ⟨last, hlast, -⟩ := lastSession_of_getLast hclosed htext
      exact ⟨last, hlast⟩
    · rintro ⟨last, hlast⟩ hnil
      exact no_session_of_nil hclosed hnil last hlast
  -- the reasons speak of days
  have hnil : requirementReasons calendar today start
      (calendar.dates.filter fun day => day ≤ cutoff.isoformat) = [] ↔
        (profileEffectiveOn ≤ today ∧ today < profileRecheckOn) ∧
          (∃ last, LastSession tokyo calendar checked last) ∧
          calendar.period.startDate ≤ start.isoformat ∧
          today.isoformat ≤ calendar.period.endDate := by
    rw [requirementReasons_eq_nil, hsession]
  -- with a reason against it nothing is listed
  by_cases hreasons : requirementReasons calendar today start
      (calendar.dates.filter fun day => day ≤ cutoff.isoformat) = []
  · simp only [if_pos hreasons] at h
    obtain ⟨priceEndExclusive, -, h⟩ := bind_eq_ok.mp h
    rw [pure_eq_ok] at h
    subst h
    refine ⟨start, ⟨rfl, hle, hrequired, hlast, ⟨fun _ => hnil.mp hreasons, fun _ => rfl⟩, nofun, ?_⟩⟩
    intro _ last hlast
    obtain ⟨text, htext⟩ := Option.isSome_iff_exists.mp
      (List.getLast?_isSome.mpr (hsession.mpr ⟨last, hlast⟩))
    obtain ⟨found, hfound, rfl⟩ := lastSession_of_getLast hclosed htext
    obtain rfl := hfound.unique hlast
    have hprices : (calendar.dates.filter fun day => start.isoformat ≤ day ∧
        day ≤ found.isoformat) = (requiredDays calendar start found).map Date.isoformat :=
      priceDates_eq start found
    have hfx := fxDates_eq (requiredDays calendar start found) helapsed
    simp only [htext, requiredPriceDates, hprices, hfx]
    refine ⟨trivial, trivial, trivial, List.IsPrefix.map Date.isoformat ?_, trivial⟩
    simp only [helapsed]
    exact filter_prefix (calendar.ascending.filter _)
  · simp only [if_neg hreasons] at h
    obtain ⟨priceEndExclusive, -, h⟩ := bind_eq_ok.mp h
    rw [pure_eq_ok] at h
    subst h
    exact ⟨start, ⟨rfl, hle, hrequired, hlast, ⟨nofun, fun hall => absurd (hnil.mpr hall) hreasons⟩,
      fun _ => ⟨rfl, rfl⟩, nofun⟩⟩

theorem RequiredStart.le {start last : Date} (h : RequiredStart last start) : start ≤ last := by
  obtain ⟨next, hnext, hstart⟩ := Option.bind_eq_some_iff.mp h
  have hordinal := Date.add?_eq_some_iff.mp hnext
  have hlt := threeYearStart_lt hstart
  rw [Date.lt_def] at hlt
  rw [Date.le_def]
  omega

/-- The greatest member of an ascending list is its last one. -/
theorem getLast_of_ascending {days : List Date} {last : Date} (hdays : days.Pairwise (· < ·))
    (hmem : last ∈ days) (hmax : ∀ day ∈ days, day ≤ last) : days.getLast? = some last := by
  obtain ⟨front, back, rfl⟩ := List.append_of_mem hmem
  have hback : back = [] := by
    cases back with
    | nil => rfl
    | cons day back =>
      have hlt := (List.pairwise_cons.mp (List.pairwise_append.mp hdays).2.1).1 day
        List.mem_cons_self
      exact absurd (hmax day (by simp)) (Date.not_le.mpr hlt)
  rw [hback, List.getLast?_append_cons, List.getLast?_singleton]

/-- Everything a resolved bundle promises, but for the coverage of its period. -/
theorem Computed.promise {start last : Date} {r : RunRequirements}
    (h : Computed tokyo calendar checked today start r) (hresolved : r.status = .resolved)
    (hlast : LastSession tokyo calendar checked last)
    (hcovers : calendar.period.Covers start today) :
    Resolved tokyo calendar checked today last start r := by
  obtain ⟨hend, hprices, hfx, hstart, hfxEnd⟩ := h.resolved hresolved last hlast
  obtain ⟨⟨-, hrecheck⟩, -⟩ := h.resolved_iff.mp hresolved
  have hrequired := h.requiredStart last hlast
  have hascending : (requiredDays calendar start last).Pairwise (· < ·) :=
    calendar.ascending.filter _
  have hrange : ∀ day, day ∈ requiredDays calendar start last ↔
      day ∈ calendar.days ∧ start ≤ day ∧ day ≤ last := by
    intro day
    rw [requiredDays, List.mem_filter, decide_eq_true_iff]
  refine ⟨hlast, hrequired, h.periodStart, hcovers, hprices, hascending, hfx, hstart, ?_, hend,
    hfxEnd, ?_⟩
  · have hmem := (hrange last).mpr ⟨hlast.1, hrequired.le, Nat.le_refl _⟩
    have hgreatest := getLast_of_ascending hascending hmem fun day hday => ((hrange day).mp hday).2.2
    rw [hend, hprices, List.getLast?_map, hgreatest, Option.map_some]
  · -- a price date is at most today, so before the profile's recheck day
    intro text htext heffective
    rw [hprices] at htext
    obtain ⟨day, hday, rfl⟩ := List.mem_map.mp htext
    obtain ⟨hmem, -, hle⟩ := (hrange day).mp hday
    have hbefore : day < profileRecheckOn :=
      Nat.lt_of_le_of_lt (Nat.le_trans hle (h.last_le last hlast)) hrecheck
    refine ⟨tokyo.combine day sessionClose, bind_eq_ok.mpr ⟨day, ?_, bind_eq_ok.mpr ⟨(), ?_, rfl⟩⟩⟩
    · rw [parseDate, fetch_eq_ok]
      exact calendar.days_read day hmem
    · rw [require_eq_ok]
      exact ⟨Date.isoformat_le_iff.mp heffective, hbefore⟩

/-- The period is read as its days are: when the profile is in effect and a session is
over, no bound is accepted on its wrong side. -/
def PeriodRead (tokyo : Tokyo) (calendar : TradingDates) (checked : Timestamp) (today : Date) :
    Prop :=
  profileEffectiveOn ≤ today → today < profileRecheckOn → ∀ last start,
    LastSession tokyo calendar checked last → RequiredStart last start →
      ¬ calendar.period.Misread start today

/-- A resolution keeps its promise exactly when the period is read as its days are. -/
theorem Computed.sound_iff {start : Date} {r : RunRequirements}
    (h : Computed tokyo calendar checked today start r) :
    Sound tokyo calendar checked today r ↔ PeriodRead tokyo calendar checked today := by
  constructor
  · intro hsound heffective hrecheck last start' hlast hstart' hmisread
    have hrequired := h.requiredStart last hlast
    rw [RequiredStart, hstart', Option.some.injEq] at hrequired
    subst hrequired
    -- the texts enclose the range, so the bundle is resolved
    have hresolved := h.resolved_iff.mpr
      ⟨⟨heffective, hrecheck⟩, ⟨last, hlast⟩, hmisread.1, hmisread.2.1⟩
    have hcovers := (ApplicablePeriod.covers_of_texts h.start_le hmisread.1 hmisread.2.1).not.mpr
      (not_not.mpr hmisread)
    have hpending := (hsound.uncovered start' h.periodStart hcovers).1
    rw [hresolved] at hpending
    cases hpending
  · intro hread
    have hcovers : r.status = .resolved → calendar.period.Covers start today := by
      intro hresolved
      obtain ⟨⟨heffective, hrecheck⟩, ⟨last, hlast⟩, hstart, hend⟩ := h.resolved_iff.mp hresolved
      exact (ApplicablePeriod.covers_of_texts h.start_le hstart hend).mpr
        (hread heffective hrecheck last start hlast (h.requiredStart last hlast))
    constructor
    · intro hresolved
      obtain ⟨-, ⟨last, hlast⟩, -⟩ := h.resolved_iff.mp hresolved
      exact ⟨last, start, h.promise hresolved hlast (hcovers hresolved)⟩
    · intro start' hstart' huncovered
      rw [h.periodStart] at hstart'
      obtain rfl := Date.isoformat_injective hstart'
      have hpending : r.status = .pending := by
        cases hstatus : r.status with
        | resolved => exact absurd (hcovers hstatus) huncovered
        | pending => rfl
      exact ⟨hpending, h.pending hpending⟩

end

/-! ## Resolutions -/

/-- The calendar, the instant and the Tokyo day a resolution reads. -/
structure Reads {Bytes : Type} (readers : Readers Bytes) (files : Files Bytes) (checkedAt : String)
    (calendar : TradingDates) (checked : Timestamp) (today : Date) : Prop where
  calendar_read : (readFile files "calendar.json" >>= readCalendar readers) = .ok calendar
  checked_read : timestamp readers checkedAt = .ok checked
  today_read : tokyoDay readers.tokyo checked = .ok today

theorem resolveRequirements_reads {Bytes : Type} {readers : Readers Bytes} {files : Files Bytes}
    {checkedAt : String} {r : RunRequirements}
    (h : resolveRequirements readers files checkedAt = .ok r) :
    ∃ calendar checked today, Reads readers files checkedAt calendar checked today ∧
      requirements readers.tokyo calendar checked checkedAt today = .ok r := by
  obtain ⟨checked, hchecked, h⟩ := bind_eq_ok.mp h
  obtain ⟨today, htoday, h⟩ := bind_eq_ok.mp h
  -- the market profile
  obtain ⟨_, -, h⟩ := bind_eq_ok.mp h
  obtain ⟨_, -, h⟩ := bind_eq_ok.mp h
  obtain ⟨_, -, h⟩ := bind_eq_ok.mp h
  obtain ⟨_, -, h⟩ := bind_eq_ok.mp h
  obtain ⟨body, hbody, h⟩ := bind_eq_ok.mp h
  obtain ⟨calendar, hcalendar, h⟩ := bind_eq_ok.mp h
  -- the provenance of the calendar
  obtain ⟨_, -, h⟩ := bind_eq_ok.mp h
  obtain ⟨_, -, h⟩ := bind_eq_ok.mp h
  obtain ⟨_, -, h⟩ := bind_eq_ok.mp h
  obtain ⟨_, -, h⟩ := bind_eq_ok.mp h
  obtain ⟨_, -, h⟩ := bind_eq_ok.mp h
  obtain ⟨_, -, h⟩ := bind_eq_ok.mp h
  obtain ⟨_, -, h⟩ := bind_eq_ok.mp h
  exact ⟨calendar, checked, today, ⟨bind_eq_ok.mpr ⟨body, hbody, hcalendar⟩, hchecked, htoday⟩, h⟩

/-- **Requirements are sound as far as the period is read as its days are**: a bundle
`resolve_requirements` returns keeps its promise exactly when no bound of the
calendar's period is spelled otherwise than `YYYY-MM-DD`, accepted by its text, and
short of the range as a date. -/
theorem resolved_requirements_sound_iff {Bytes : Type} {readers : Readers Bytes}
    {files : Files Bytes} {checkedAt : String} {r : RunRequirements}
    (h : resolveRequirements readers files checkedAt = .ok r) :
    ∃ calendar checked today, Reads readers files checkedAt calendar checked today ∧
      (Sound readers.tokyo calendar checked today r ↔
        PeriodRead readers.tokyo calendar checked today) := by
  obtain ⟨calendar, checked, today, hreads, h⟩ := resolveRequirements_reads h
  obtain ⟨start, hcomputed⟩ := requirements_computed hreads.today_read h
  exact ⟨calendar, checked, today, hreads, hcomputed.sound_iff⟩

/-- The files of one run. -/
inductive SampleFile where
  | profile
  | calendar
  | metadata
  | note
deriving DecidableEq

def sampleFiles : Files SampleFile
  | "market-profile.yaml" => some .profile
  | "calendar.json" => some .calendar
  | "calendar-metadata.json" => some .metadata
  | "research-note.md" => some .note
  | _ => none

/-- A run checked at 2026-09-29T00:00:00Z, with a calendar of two sessions whose period
ends as given. -/
def sampleReaders (endDate : String) : Readers SampleFile where
  sha256
    | .profile => profileSha256
    | .calendar => "9b1c"
    | .metadata => "55d0"
    | .note => "07aa"
  fromisoformat text :=
    if text = "2026-09-29T00:00:00+00:00" then
      some (⟨739887 * dayMicros, by decide⟩, some 0)
    else none
  tokyo := .standard
  marketProfile _ := some ⟨2, true⟩
  tradingDates _ := some ⟨"2023-01-04", endDate, ["2026-09-25", "2026-09-28"]⟩
  calendarMetadata _ := some ⟨"2026-09-29T00:00:00+00:00", "9b1c", "07aa"⟩

theorem sample_resolved (endDate : String) (hend : endDate = "20260101" ∨ endDate = "2026-12-31") :
    ∃ r, resolveRequirements (sampleReaders endDate) sampleFiles "2026-09-29T00:00:00+00:00" =
      .ok r ∧ r.status = .resolved := by
  have hstatus : (resolveRequirements (sampleReaders endDate) sampleFiles
      "2026-09-29T00:00:00+00:00").map (·.status) = .ok .resolved := by
    rcases hend with rfl | rfl <;> decide +kernel
  cases h : resolveRequirements (sampleReaders endDate) sampleFiles "2026-09-29T00:00:00+00:00" with
  | error e => rw [h] at hstatus; cases hstatus
  | ok r =>
    rw [h] at hstatus
    exact ⟨r, rfl, Except.ok.inj hstatus⟩

/-- The promise, applied: a calendar that runs to the end of the year. -/
theorem resolved_requirements_sound_iff_sample :
    ∃ r, resolveRequirements (sampleReaders "2026-12-31") sampleFiles
        "2026-09-29T00:00:00+00:00" = .ok r ∧
      ∃ calendar checked today,
        Reads (sampleReaders "2026-12-31") sampleFiles "2026-09-29T00:00:00+00:00" calendar
          checked today ∧
        (Sound .standard calendar checked today r ↔
          PeriodRead .standard calendar checked today) := by
  obtain ⟨r, h, -⟩ := sample_resolved "2026-12-31" (.inr rfl)
  exact ⟨r, h, resolved_requirements_sound_iff h⟩

/-- A calendar whose period ended on the first of January is certified in September:
its `20260101` sorts after `2026-09-29`. -/
theorem outdated_calendar_resolved :
    ∃ r calendar checked today,
      resolveRequirements (sampleReaders "20260101") sampleFiles "2026-09-29T00:00:00+00:00" =
        .ok r ∧
      Reads (sampleReaders "20260101") sampleFiles "2026-09-29T00:00:00+00:00" calendar checked
        today ∧
      r.status = .resolved ∧ calendar.period.last < today ∧
      ¬ Sound .standard calendar checked today r := by
  obtain ⟨r, h, hresolved⟩ := sample_resolved "20260101" (.inl rfl)
  obtain ⟨calendar, checked, today, hreads, -⟩ := resolveRequirements_reads h
  have hcalendar : (readFile sampleFiles "calendar.json" >>=
      readCalendar (sampleReaders "20260101")).map
        (fun c => (c.period.last.ordinal, c.days.map Date.ordinal)) =
      .ok (739616, [739883, 739886]) := by decide +kernel
  have htoday : (timestamp (sampleReaders "20260101") "2026-09-29T00:00:00+00:00" >>=
      tokyoDay Tokyo.standard).map Date.ordinal = .ok 739887 := by decide +kernel
  rw [hreads.calendar_read] at hcalendar
  rw [hreads.checked_read] at htoday
  have hread : tokyoDay Tokyo.standard checked = .ok today := hreads.today_read
  rw [show (Except.ok checked >>= tokyoDay Tokyo.standard : Except RunError Date) =
    tokyoDay Tokyo.standard checked from rfl, hread] at htoday
  have hordinal : today.ordinal = 739887 := Except.ok.inj htoday
  obtain ⟨hlast, hdays⟩ := Prod.mk.inj (Except.ok.inj hcalendar)
  -- the calendar has ended, but a sound resolution would cover today
  have hended : calendar.period.last < today := by
    rw [Date.lt_def, hlast, hordinal]
    decide
  refine ⟨r, calendar, checked, today, h, hreads, hresolved, hended, fun hsound => ?_⟩
  obtain ⟨last, start, hpromise⟩ := hsound.resolved hresolved
  have hstart : start ≤ today := by
    refine Nat.le_trans hpromise.requiredStart.le ?_
    have hmem := List.mem_map_of_mem (f := Date.ordinal) hpromise.lastSession.1
    rw [hdays] at hmem
    simp only [List.mem_cons, List.not_mem_nil, or_false] at hmem
    omega
  exact Date.not_le.mpr hended (hpromise.covers today hstart (Nat.le_refl _)).2

end StockResearch.Preparation
