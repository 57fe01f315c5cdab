import MailReplica.Proofs.Configuration.RoundTrip

/-! # Configurations beyond what can be counted

Any numbers may stand in a configuration.  The days that messages are kept can lead back to before
the calendar begins, and the minutes of a round of waiting can be more seconds than a 64-bit number
holds; then there are no settings for a pass, or no timeout.  Otherwise the settings and the timeout
are just what the configuration says (`Configuration.settled_or_beyond`).
-/

namespace MailReplica

namespace Instant

/-- The nanoseconds since the start of 1970. -/
def elapsed (instant : Instant) : Int :=
  instant.seconds * secondNanos + instant.nanos

/-- The nanoseconds of some days. -/
def dayNanos (days : Nat) : Int :=
  days * daySeconds * secondNanos

/-- A time that a clock can tell: the calendar reaches to it, and its second is at most a leap
second. -/
structure IsTime (instant : Instant) : Prop where
  reached : instant.inCalendar = true
  nanos : instant.nanos < 2 * secondNanos

theorem inCalendar_iff {instant : Instant} : instant.inCalendar = true ↔
    leastSecond ≤ instant.seconds ∧ instant.seconds ≤ greatestSecond := by
  rw [inCalendar, Bool.and_eq_true, decide_eq_true_iff, decide_eq_true_iff]

variable {now earlier : Instant} {days : Nat}

theorem elapsed_withoutLeap (instant : Instant) : instant.withoutLeap.elapsed = instant.elapsed := by
  unfold withoutLeap
  split
  next leap =>
    simp only [elapsed, secondNanos] at leap ⊢
    omega
  next => rfl

theorem withoutLeap_eq (plain : now.nanos < secondNanos) : now.withoutLeap = now :=
  if_neg (Nat.not_le.2 plain)

/-- The instant that days before `instant` are counted from. -/
def origin (instant : Instant) (days : Nat) : Instant :=
  if days = 0 then instant else instant.withoutLeap

theorem elapsed_origin (instant : Instant) (days : Nat) :
    (instant.origin days).elapsed = instant.elapsed := by
  unfold origin
  split
  · rfl
  · exact elapsed_withoutLeap instant

theorem origin_eq (plain : now.nanos < secondNanos) (days : Nat) : now.origin days = now := by
  rw [origin, withoutLeap_eq plain, ite_self]

theorem minusDays?_eq (instant : Instant) (days : Nat) :
    instant.minusDays? days =
      if inCalendar ⟨(instant.origin days).seconds - days * daySeconds, (instant.origin days).nanos⟩
      then some ⟨(instant.origin days).seconds - days * daySeconds, (instant.origin days).nanos⟩
      else none :=
  rfl

theorem minusDays?_eq_some (is : now.minusDays? days = some earlier) :
    earlier.elapsed = now.elapsed - dayNanos days ∧
      (now.nanos < secondNanos → earlier = ⟨now.seconds - days * daySeconds, now.nanos⟩) := by
  rw [minusDays?_eq] at is
  obtain ⟨_, same⟩ := (Option.ite_none_right_eq_some ..).1 is
  cases same
  refine ⟨?_, fun plain => by rw [origin_eq plain]⟩
  rw [← elapsed_origin now days]
  simp only [elapsed, dayNanos]
  rw [Int.sub_mul]
  omega

theorem origin_bounds (time : now.IsTime) (some : days ≠ 0) :
    (now.origin days).nanos < secondNanos ∧ (now.origin days).seconds ≤ greatestSecond + 1 := by
  have last := (inCalendar_iff.1 time.reached).2
  have leap := time.nanos
  rw [origin, if_neg some, withoutLeap]
  split
  next => exact ⟨by dsimp only; omega, Int.add_le_add_right last 1⟩
  next plain => exact ⟨Nat.not_le.1 plain, by omega⟩

/-- Days before a time that a clock can tell leave the calendar only at its beginning. -/
theorem minusDays?_eq_none (time : now.IsTime) : now.minusDays? days = none ↔
    now.elapsed - dayNanos days < leastSecond * secondNanos := by
  rw [minusDays?_eq, ← elapsed_origin now days, ite_eq_right_iff, inCalendar_iff]
  obtain rfl | some := eq_or_ne days 0
  · have reached := inCalendar_iff.1 time.reached
    rw [origin, if_pos rfl]
    simp only [elapsed, dayNanos, secondNanos, daySeconds, leastSecond, greatestSecond, reduceCtorEq,
      imp_false] at reached ⊢
    omega
  · have bounds := origin_bounds time some
    generalize now.origin days = start at bounds ⊢
    simp only [elapsed, dayNanos, secondNanos, daySeconds, leastSecond, greatestSecond, reduceCtorEq,
      imp_false] at bounds ⊢
    omega

end Instant

namespace PassOptions

/-- The settings of a pass at `now` say what the options say. -/
structure Settles (options : PassOptions) (now : Instant) (settings : PassSettings) : Prop where
  /-- Messages are kept however old they are unless the options limit that. -/
  unlimited : options.daysKept = none → settings.cutoff = none
  /-- The cutoff lies just as many days back as the options say, on a clock in UTC. -/
  limited : ∀ days, options.daysKept = some days → ∃ instant, settings.cutoff = some ⟨instant, 0⟩ ∧
    instant.elapsed = now.elapsed - Instant.dayNanos days.toNat ∧
    (now.nanos < Instant.secondNanos →
      instant = ⟨now.seconds - days.toNat * Instant.daySeconds, now.nanos⟩)
  expungePolicy : settings.expungePolicy = options.expungePolicy
  removeVanished : settings.removeVanished = options.removeVanished
  largestDownload : settings.largestDownload = options.largestDownload
  visibleLimit : settings.visibleLimit = options.visibleLimit
  trackedFlags : ∀ flag, flag ∈ settings.trackedFlags ↔ flag ∈ options.trackedFlags

/-- The settings of a pass with the given cutoff. -/
def withCutoff (options : PassOptions) (cutoff : Option DatedInstant) : PassSettings where
  expungePolicy := options.expungePolicy
  cutoff := cutoff
  removeVanished := options.removeVanished
  largestDownload := options.largestDownload
  visibleLimit := options.visibleLimit
  trackedFlags := Std.ExtTreeSet.ofList options.trackedFlags

variable {options : PassOptions} {now : Instant} {settings : PassSettings} {days : UInt32}

theorem mem_withCutoff (cutoff : Option DatedInstant) (flag : Flag) :
    flag ∈ (options.withCutoff cutoff).trackedFlags ↔ flag ∈ options.trackedFlags := by
  simp [withCutoff, Std.ExtTreeSet.mem_ofList]

theorem settings?_unlimited (kept : options.daysKept = none) :
    options.settings? now = some (options.withCutoff none) := by
  unfold settings?
  rw [kept]
  rfl

theorem settings?_limited (kept : options.daysKept = some days) :
    options.settings? now =
      (now.minusDays? days.toNat).map fun earliest => options.withCutoff (some ⟨earliest, 0⟩) := by
  unfold settings?
  rw [kept]
  dsimp only
  cases now.minusDays? days.toNat <;> rfl

theorem settles (is : options.settings? now = some settings) : options.Settles now settings := by
  cases kept : options.daysKept with
  | none =>
    rw [settings?_unlimited kept] at is
    cases is
    refine ⟨fun _ => rfl, fun days same => ?_, rfl, rfl, rfl, rfl, mem_withCutoff none⟩
    rw [kept] at same
    cases same
  | some days =>
    rw [settings?_limited kept] at is
    obtain ⟨earliest, counted, rfl⟩ := Option.map_eq_some_iff.1 is
    refine ⟨fun none => ?_, fun days' same => ?_, rfl, rfl, rfl, rfl, mem_withCutoff _⟩
    · rw [kept] at none
      cases none
    · rw [kept] at same
      cases same
      exact ⟨earliest, rfl, Instant.minusDays?_eq_some counted⟩

theorem settings?_eq_none (time : now.IsTime) : options.settings? now = none ↔
    ∃ days, options.daysKept = some days ∧
      now.elapsed - Instant.dayNanos days.toNat < Instant.leastSecond * Instant.secondNanos := by
  cases kept : options.daysKept with
  | none => simp [settings?_unlimited kept]
  | some days =>
    rw [settings?_limited kept, Option.map_eq_none_iff, Instant.minusDays?_eq_none time]
    simp only [Option.some_inj, exists_eq_left']

end PassOptions

namespace WatchOptions

variable {options : WatchOptions} {seconds : UInt64}

theorem refreshSeconds?_eq_some (is : options.refreshSeconds? = some seconds) :
    seconds.toNat = max 1 options.refreshMinutes.toNat * 60 := by
  obtain ⟨fits, same⟩ := (Option.ite_none_right_eq_some ..).1 is
  cases same
  exact UInt64.toNat_ofNat_of_lt fits

theorem refreshSeconds?_eq_none : options.refreshSeconds? = none ↔
    2 ^ 64 ≤ max 1 options.refreshMinutes.toNat * 60 := by
  rw [refreshSeconds?, ite_eq_right_iff, ← Nat.not_lt]
  exact ⟨fun is fits => Option.some_ne_none _ (is fits), fun large fits => absurd fits large⟩

end WatchOptions

namespace Configuration

/-- What becomes of a configuration at the time `now`. -/
structure Settled (configuration : Configuration) (now : Instant) : Prop where
  /-- Reading refuses no configuration for what it says. -/
  accepted : ofDocument configuration.document = .ok configuration
  settings : ∀ settings, configuration.passSettings? now = some settings →
    configuration.pass.Settles now settings
  /-- A pass has no settings just where the days kept go back to before the calendar begins. -/
  beyond : configuration.passSettings? now = none ↔
    ∃ days, configuration.pass.daysKept = some days ∧
      now.elapsed - Instant.dayNanos days.toNat < Instant.leastSecond * Instant.secondNanos
  refresh : ∀ seconds, configuration.watch.refreshSeconds? = some seconds →
    seconds.toNat = max 1 configuration.watch.refreshMinutes.toNat * 60
  /-- There is no timeout just where a 64-bit number does not hold its seconds. -/
  tooLong : configuration.watch.refreshSeconds? = none ↔
    2 ^ 64 ≤ max 1 configuration.watch.refreshMinutes.toNat * 60

/-- At any time that a clock can tell, the settings of a pass and the timeout of waiting are exactly
what a configuration says, unless the days kept go back to before the calendar begins or the timeout
is longer than a 64-bit number of seconds; and no configuration is refused for that. -/
theorem settled_or_beyond (configuration : Configuration) {now : Instant} (time : now.IsTime) :
    configuration.Settled now where
  accepted := ofDocument_document configuration
  settings _ is := PassOptions.settles is
  beyond := PassOptions.settings?_eq_none time
  refresh _ is := WatchOptions.refreshSeconds?_eq_some is
  tooLong := WatchOptions.refreshSeconds?_eq_none

/-- A configuration by which messages of the last eleven million years are kept, and a round of
waiting lasts longer than that. -/
def boundless : Configuration :=
  { empty with
    pass := { PassOptions.usual with daysKept := some 4294967295 }
    watch := { WatchOptions.usual with refreshMinutes := 18446744073709551615 } }

theorem settled_or_beyond_boundless :
    (⟨1710072000, 0⟩ : Instant).IsTime ∧ boundless.passSettings? ⟨1710072000, 0⟩ = none ∧
      boundless.watch.refreshSeconds? = none := by
  have time : (⟨1710072000, 0⟩ : Instant).IsTime := ⟨by decide, by decide⟩
  have settled := settled_or_beyond boundless time
  exact ⟨time, settled.beyond.2 ⟨4294967295, rfl, by decide⟩, settled.tooLong.2 (by decide)⟩

end Configuration

end MailReplica
