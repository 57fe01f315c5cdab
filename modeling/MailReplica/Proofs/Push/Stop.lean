import MailReplica.Proofs.Idle.Stop
import MailReplica.Proofs.Push.Life

/-! # A pusher that is stopped

A pusher is stopped in two steps: the stop signal is given first, and then its idler is stopped.
The run at the end of which the flag of the idler is cleared may be over before the pusher looks at
the signal, or after, so neither step would do alone.  With the signal up the pusher calls for no
run but one that it was about to call for (`Step.mayCall`), and with the flag up as well the run
that it waits for is one that sends no `IDLE` (`Quelled`).  How much a pusher with the signal up may
still tell, and how far it is from its end, is read off its point (`Point.tellsLeft`,
`Point.stepsLeft`), and each step uses some of it up (`Step.winds`).
-/

namespace MailReplica.Push

open Idle (Settings yields_willing)

/-! ## Going on -/

/-- A pusher can come from `before` to another watch by moments, latest first. -/
inductive Proceeds (settings : Settings) (before : Watch) : List Moment → Watch → Prop
  | here : Proceeds settings before [] before
  | step {past : List Moment} {watch after : Watch} {moment : Moment}
      (proceeds : Proceeds settings before past watch) (step : Step settings watch moment after) :
      Proceeds settings before (moment :: past) after

/-- Whether the pusher tells something. -/
def Moment.tells (moment : Moment) : Bool :=
  moment.told?.isSome

/-- Whether the pusher is about to call for a run. -/
def Watch.MayCall (watch : Watch) : Prop :=
  watch.pusher.point = .running ∧ watch.life.run = none

section Proceeds

variable {settings : Settings} {backoff : Backoff} {before middle after : Watch}
  {newer older : List Moment}

theorem Proceeds.split (proceeds : Proceeds settings before (newer ++ older) after) :
    ∃ middle, Proceeds settings before older middle ∧ Proceeds settings middle newer after := by
  induction newer generalizing after with
  | nil => exact ⟨after, proceeds, .here⟩
  | cons moment newer ih =>
    rw [List.cons_append] at proceeds
    cases proceeds with
    | step proceeds step =>
      obtain ⟨middle, first, second⟩ := ih proceeds
      exact ⟨middle, first, second.step step⟩

theorem Watched.append (watched : Watched settings backoff older before)
    (proceeds : Proceeds settings before newer after) :
    Watched settings backoff (newer ++ older) after := by
  induction proceeds with
  | here => exact watched
  | step _ step ih => exact ih.step step

theorem Step.signal_eq_true {moment : Moment} (step : Step settings before moment after)
    (up : before.signal = true) : after.signal = true := by
  cases step with
  | signal => rfl
  | _ => exact up

theorem Proceeds.signal_eq_true (proceeds : Proceeds settings before newer after)
    (up : before.signal = true) : after.signal = true := by
  induction proceeds with
  | here => exact up
  | step _ step ih => exact step.signal_eq_true ih

theorem Proceeds.after_signal (proceeds : Proceeds settings before (newer ++ [.signal]) after) :
    Proceeds settings { before with signal := true } newer after := by
  obtain ⟨middle, first, second⟩ := proceeds.split
  cases first with
  | step first step =>
    cases first
    cases step
    exact second

end Proceeds

/-! ## What is left to do -/

namespace Point

/-- How often a pusher goes on to another point once the signal is up. -/
def stepsLeft : Point → Nat
  | running => 3
  | met | telling _ => 2
  | looking | failing _ | waiting _ => 1
  | ended => 0

/-- How often a pusher tells something once the signal is up. -/
def tellsLeft : Point → Nat
  | running | telling _ => 1
  | _ => 0

theorem tellsLeft_le_one (point : Point) : point.tellsLeft ≤ 1 := by
  cases point <;> simp [tellsLeft]

/-- Whether a pusher with the signal up stays at a point, or goes on from there to another. -/
def Winds (tells : Bool) (point next : Point) : Prop :=
  next = point ∧ tells = false ∨
    next.stepsLeft < point.stepsLeft ∧ next.tellsLeft + (if tells then 1 else 0) ≤ point.tellsLeft

theorem Winds.tellsLeft_le {tells : Bool} {point next : Point} (winds : Winds tells point next) :
    next.tellsLeft + (if tells then 1 else 0) ≤ point.tellsLeft := by
  obtain ⟨rfl, rfl⟩ | ⟨_, le⟩ := winds
  · exact Nat.le_refl _
  · exact le

theorem Winds.eq_running {tells : Bool} {point : Point} (winds : Winds tells point .running) :
    point = .running := by
  -- No point is farther from the end than the one at which a run goes on.
  obtain ⟨same, _⟩ | ⟨nearer, _⟩ := winds
  · exact same.symm
  · cases point <;> simp [stepsLeft] at nearer

/-- A pusher that winds down, and stays at no point for ever but the last, comes to the last. -/
theorem exists_ended {points : Nat → Point} {tells : Nat → Bool}
    (winds : ∀ n, Winds (tells n) (points n) (points (n + 1)))
    (moves : ∀ n, points n ≠ ended → ∃ m > n, points m ≠ points n) :
    ∃ n, ∀ m ≥ n, points m = ended := by
  have later (n k : Nat) :
      points (n + k) = points n ∨ (points (n + k)).stepsLeft < (points n).stepsLeft := by
    induction k with
    | zero => exact .inl rfl
    | succ k ih =>
      obtain ⟨same, _⟩ | ⟨nearer, _⟩ := winds (n + k)
      · rwa [← Nat.add_assoc, same]
      · obtain same | far := ih
        · exact .inr (same ▸ nearer)
        · exact .inr (Nat.lt_trans nearer far)
  -- The induction is on how far the pusher is from its end.
  suffices ∀ left n, (points n).stepsLeft = left → ∃ n, ∀ m ≥ n, points m = ended from
    this _ 0 rfl
  intro left
  induction left using Nat.strongRecOn with
  | ind left ih =>
    intro n is
    by_cases done : points n = ended
    · refine ⟨n, fun m after => ?_⟩
      obtain ⟨k, rfl⟩ := Nat.exists_eq_add_of_le after
      obtain same | nearer := later n k
      · exact same.trans done
      · rw [done] at nearer
        cases nearer
    · obtain ⟨m, after, moved⟩ := moves n done
      obtain ⟨k, rfl⟩ := Nat.exists_eq_add_of_lt after
      exact ih _ (is ▸ (later n (k + 1)).resolve_left moved) _ rfl

end Point

namespace Pusher

variable {pusher : Pusher}

theorem winds_take (pusher : Pusher) (ending : Idle.Ending) :
    Point.Winds false pusher.point (pusher.take ending).point := by
  obtain ⟨point, backoff⟩ := pusher
  rcases ending with failure | (_ | _ | _) <;> cases point <;>
    simp [Point.Winds, take, Point.stepsLeft, Point.tellsLeft]

theorem winds_after (pusher : Pusher) (deed : Idle.Deed) :
    Point.Winds false pusher.point (pusher.after deed).point := by
  unfold after
  cases deed.returns? with
  | none => exact .inl ⟨rfl, rfl⟩
  | some ending => exact winds_take pusher ending

theorem winds_look (pusher : Pusher) : Point.Winds false pusher.point (pusher.look true).point := by
  obtain ⟨point, backoff⟩ := pusher
  cases point <;> simp [Point.Winds, look, Point.stepsLeft, Point.tellsLeft]

theorem winds_wake (pusher : Pusher) : Point.Winds false pusher.point (pusher.wake true).point := by
  obtain ⟨point, backoff⟩ := pusher
  cases point <;> simp [Point.Winds, wake, Point.stepsLeft, Point.tellsLeft]

theorem winds_told {event : Event} (tells : pusher.point = .telling event) :
    Point.Winds true pusher.point pusher.told.point := by
  obtain ⟨point, backoff⟩ := pusher
  cases tells
  cases event <;> simp [Point.Winds, told, Point.stepsLeft, Point.tellsLeft]

/-- A run that a pusher waits for is over when it returns. -/
theorem take_ne_running (pusher : Pusher) (ending : Idle.Ending) :
    (pusher.take ending).point ≠ .running := by
  obtain ⟨point, backoff⟩ := pusher
  rcases ending with failure | (_ | _ | _) <;> cases point <;> simp [take]

end Pusher

section Step

variable {settings : Settings} {watch after : Watch} {moment : Moment}

theorem Step.winds (step : Step settings watch moment after) (up : watch.signal = true) :
    Point.Winds moment.tells watch.pusher.point after.pusher.point := by
  cases step with
  | @idler pusher => exact pusher.winds_after _
  | @look pusher =>
    cases up
    exact pusher.winds_look
  | tell tells => exact Pusher.winds_told tells
  | @wake pusher =>
    cases up
    exact pusher.winds_wake
  | signal => exact .inl ⟨rfl, rfl⟩

theorem Step.runs (step : Step settings watch moment after) (up : watch.signal = true)
    (runs : after.pusher.point = .running) : watch.pusher.point = .running :=
  (runs ▸ step.winds up).eq_running

/-- With the signal up, a pusher calls for a run if it was about to, and not again. -/
theorem Step.mayCall (step : Step settings watch moment after) (up : watch.signal = true) :
    (moment.isCall = true → watch.MayCall ∧ ¬ after.MayCall) ∧ (after.MayCall → watch.MayCall) := by
  have runs := step.runs up
  cases step with
  | @idler pusher signal before life own step owns =>
    refine ⟨fun call => ⟨owns call, ?_⟩, ?_⟩
    · rintro ⟨again, still⟩
      cases step with
      | enter => cases still
      | refuse => exact pusher.take_ne_running _ again
      | _ => cases call
    · rintro ⟨again, still⟩
      cases step with
      | enter | work | reply => cases still
      | refuse | leave => exact absurd again (pusher.take_ne_running _)
      | stop | refresh => exact ⟨runs again, still⟩
  | _ => exact ⟨nofun, fun ⟨again, still⟩ => ⟨runs again, still⟩⟩

end Step

/-! ## What becomes of a pusher -/

/-- A pusher and its idler are both stopped. -/
structure Quelled (watch : Watch) : Prop where
  signal : watch.signal = true
  /-- The run that the pusher waits for meets the flag before it begins a round, or has cleared the
  flag at its end. -/
  heeds : watch.pusher.point = .running → watch.life.idler.stopRequested = true ∨
    watch.life.run ≠ none ∧ watch.life.active = false

section Step

variable {settings : Settings} {watch after : Watch} {moment : Moment}

theorem Quelled.step (quelled : Quelled watch) (step : Step settings watch moment after) :
    Quelled after := by
  refine ⟨step.signal_eq_true quelled.signal, fun runs => ?_⟩
  have heeds := quelled.heeds (step.runs quelled.signal runs)
  cases step with
  | @idler pusher signal before life own step owns =>
    have happens := Idle.happens_step step
    rw [Idle.happens_stopRequested happens, Idle.happens_active happens]
    cases step with
    | refuse | leave => exact absurd runs (pusher.take_ne_running _)
    | enter =>
      have due := heeds.resolve_right fun past => past.1 rfl
      exact .inl (by rw [due]; rfl)
    | stop | refresh =>
      exact heeds.imp (fun due => by rw [due]; rfl) fun past => ⟨past.1, by rw [past.2]; rfl⟩
    | reply =>
      exact heeds.imp (fun due => by rw [due]; rfl) fun past => ⟨nofun, by rw [past.2]; rfl⟩
    | @work _ _ point _ calls =>
      cases clears : Idle.Moment.clears ⟨.work point, calls⟩ with
      | true => exact .inr ⟨nofun, by rw [Bool.not_true, Bool.and_false]; rfl⟩
      | false =>
        obtain due | ⟨_, past⟩ := heeds
        · exact .inl (by rw [due]; rfl)
        · exact .inr ⟨nofun, by rw [past]; rfl⟩
  | _ => exact heeds

/-- A pusher that is stopped together with its idler sends no `IDLE`. -/
theorem Quelled.silent {before after : Idle.Life} {sent : Idle.Moment} {pusher : Pusher}
    {signal : Bool} (quelled : Quelled ⟨pusher, signal, before⟩)
    (waits : before.run = none ∨ pusher.point = .running)
    (step : Idle.Step settings before sent after) : ¬ sent.SendsIdle := by
  intro sends
  have happens := Idle.happens_step step
  have active := happens.active_of_sendsIdle sends
  obtain still | runs := waits
  · rw [Idle.Life.active, still] at active
    cases active
  · obtain due | ⟨_, past⟩ := quelled.heeds runs
    · cases due.symm.trans (happens.go_of_sendsIdle sends)
    · cases past.symm.trans active

end Step

section Proceeds

variable {settings : Settings} {before after : Watch} {since : List Moment}

theorem Proceeds.countP_tells_le (proceeds : Proceeds settings before since after)
    (up : before.signal = true) :
    after.pusher.point.tellsLeft + since.countP Moment.tells ≤ before.pusher.point.tellsLeft := by
  induction proceeds with
  | here => exact Nat.le_refl _
  | step proceeds step ih =>
    have uses := (step.winds (proceeds.signal_eq_true up)).tellsLeft_le
    rw [List.countP_cons]
    omega

theorem Proceeds.countP_isCall (proceeds : Proceeds settings before since after)
    (up : before.signal = true) :
    since.countP Moment.isCall = 0 ∧ (after.MayCall → before.MayCall) ∨
      since.countP Moment.isCall = 1 ∧ before.MayCall ∧ ¬ after.MayCall := by
  induction proceeds with
  | here => exact .inl ⟨rfl, id⟩
  | @step past watch after moment proceeds step ih =>
    obtain ⟨calls, again⟩ := step.mayCall (proceeds.signal_eq_true up)
    rw [List.countP_cons]
    cases call : moment.isCall with
    | false => exact ih.imp (And.imp id fun may => may ∘ again) (And.imp id (And.imp id (mt again)))
    | true =>
      obtain ⟨may, no⟩ := calls call
      obtain ⟨none, first⟩ | ⟨_, _, mayNot⟩ := ih
      · exact .inr ⟨by simp [none], first may, no⟩
      · exact absurd may mayNot

theorem Proceeds.quelled (proceeds : Proceeds settings before since after)
    (quelled : Quelled before) : Quelled after := by
  induction proceeds with
  | here => exact quelled
  | step _ step ih => exact ih.step step

end Proceeds

/-- What follows when a pusher is given the stop signal, and its idler is stopped after that. -/
structure Quits (settings : Settings) (before : Watch) : Prop where
  /-- No `IDLE` is sent any more once the idler is stopped. -/
  silent : ∀ {since between : List Moment} {calls : List Idle.Exchange} {sent : Idle.Moment}
    {after : Watch}, Proceeds settings before
      (.idler sent :: (between ++ .idler ⟨.stop, calls⟩ :: (since ++ [.signal]))) after →
    ¬ sent.SendsIdle
  /-- At most one event is told after the signal. -/
  tells : ∀ {since : List Moment} {after : Watch},
    Proceeds settings before (since ++ [.signal]) after → since.countP Moment.tells ≤ 1
  /-- At most one run is called for after the signal, and that only if the pusher was about to. -/
  calls : ∀ {since : List Moment} {after : Watch},
    Proceeds settings before (since ++ [.signal]) after →
    since.countP Moment.isCall = 0 ∨ since.countP Moment.isCall = 1 ∧ before.MayCall
  /-- The pusher comes to its end, if there is no other point at which it stays for ever. -/
  ends : ∀ {course : Nat → Watch} {moments : Nat → Moment}, course 0 = before →
    moments 0 = .signal → (∀ n, Step settings (course n) (moments n) (course (n + 1))) →
    (∀ n, (course n).pusher.point ≠ .ended →
      ∃ m > n, (course m).pusher.point ≠ (course n).pusher.point) →
    ∃ n, ∀ m ≥ n, (course m).pusher.point = .ended

section Watched

variable {settings : Settings} {backoff : Backoff} {history since between : List Moment}
  {before after : Watch} {sent : Idle.Moment} {calls : List Idle.Exchange}

theorem Watched.silent (watched : Watched settings backoff history before)
    (proceeds : Proceeds settings before
      (.idler sent :: (between ++ .idler ⟨.stop, calls⟩ :: (since ++ [.signal]))) after) :
    ¬ sent.SendsIdle := by
  cases proceeds with
  | step proceeds last =>
    have waits := (watched.append proceeds).waits
    obtain ⟨stopped, proceeds, rest⟩ := proceeds.split
    cases proceeds with
    | step proceeds stops =>
      have up := proceeds.after_signal.signal_eq_true rfl
      have quelled : Quelled stopped := by
        refine ⟨stops.signal_eq_true up, fun _ => .inl ?_⟩
        cases stops with
        | idler step =>
          rw [Idle.happens_stopRequested (Idle.happens_step step)]
          simp [Idle.Moment.clears, Idle.Moment.stops]
      cases last with
      | idler step => exact (rest.quelled quelled).silent waits step

theorem ends_of_moves {course : Nat → Watch} {moments : Nat → Moment} (first : moments 0 = .signal)
    (steps : ∀ n, Step settings (course n) (moments n) (course (n + 1)))
    (moves : ∀ n, (course n).pusher.point ≠ .ended →
      ∃ m > n, (course m).pusher.point ≠ (course n).pusher.point) :
    ∃ n, ∀ m ≥ n, (course m).pusher.point = .ended := by
  have up (n : Nat) : (course (n + 1)).signal = true := by
    induction n with
    | zero =>
      have step := steps 0
      rw [first] at step
      generalize course 0 = before, course (0 + 1) = after at step
      cases step
      rfl
    | succ n ih => exact (steps (n + 1)).signal_eq_true ih
  have again (n : Nat) (going : (course (n + 1)).pusher.point ≠ .ended) :
      ∃ m > n, (course (m + 1)).pusher.point ≠ (course (n + 1)).pusher.point := by
    obtain ⟨m, after, moved⟩ := moves (n + 1) going
    cases m with
    | zero => cases after
    | succ m => exact ⟨m, Nat.lt_of_succ_lt_succ after, moved⟩
  obtain ⟨n, ended⟩ := @Point.exists_ended (fun n => (course (n + 1)).pusher.point)
    (fun n => (moments (n + 1)).tells) (fun n => (steps (n + 1)).winds (up n)) again
  refine ⟨n + 1, fun m after => ?_⟩
  cases m with
  | zero => cases after
  | succ m => exact ended m (Nat.le_of_succ_le_succ after)

theorem Watched.quits (watched : Watched settings backoff history before) :
    Quits settings before where
  silent proceeds := watched.silent proceeds
  tells proceeds := by
    have uses := proceeds.after_signal.countP_tells_le rfl
    exact Nat.le_trans (Nat.le_of_add_left_le uses) before.pusher.point.tellsLeft_le_one
  calls proceeds :=
    (proceeds.after_signal.countP_isCall rfl).imp And.left (And.imp id And.left)
  ends _ first steps moves := ends_of_moves first steps moves

end Watched

/-! ## A pusher that is stopped before its first run -/

namespace Withdrawal

abbrev settings : Settings := ⟨"INBOX", 1000⟩

/-- A pusher that is about to call for its first run is stopped.  The run finds the flag up before
its first round. -/
def course : Nat → Watch
  | 0 => ⟨⟨.running, .starting 1 2⟩, false, .new⟩
  | 1 => ⟨⟨.running, .starting 1 2⟩, true, .new⟩
  | 2 => ⟨⟨.running, .starting 1 2⟩, true, ⟨.notStarted, true, .stopped, none, none⟩, none⟩
  | 3 => run ⟨.capabilityCheck, true, .stopped, none, none⟩ .connecting
  | 4 => run ⟨.capabilityCheck, true, .stopped, none, none⟩ (.connected 0)
  | 5 => run ⟨.capabilityCheck, true, .stopped, none, some 0⟩ (.opening 0)
  | 6 => run ⟨.capabilityCheck, true, .stopped, none, some 0⟩ (.checking 0)
  | 7 => run ⟨.capabilityCheck, true, .stopped, none, some 0⟩ (.starting 0)
  | 8 => run ⟨.capabilityCheck, true, .stopped, none, some 0⟩ .concluding
  | 9 => run ⟨.capabilityCheck, true, .stopped, none, some 0⟩ (.finishing (.ok .stopped))
  | 10 => run ⟨.stopped, false, .stopped, none, none⟩ (.closing 0 (.ok .stopped))
  | 11 => run ⟨.stopped, false, .stopped, none, none⟩ (.ended (.ok .stopped))
  | _ => ⟨⟨.ended, .starting 1 2⟩, true, ⟨.stopped, false, .stopped, none, none⟩, none⟩
where
  run (idler : Idle.Idler) (point : Idle.Point) : Watch :=
    ⟨⟨.running, .starting 1 2⟩, true, idler, some point⟩

def moments : Nat → Moment
  | 0 => .signal
  | 1 => .idler ⟨.stop, []⟩
  | 2 => .idler ⟨.enter, []⟩
  | 3 => .idler ⟨.reply .connecting (.connected (.ok 0)), []⟩
  | 4 => .idler ⟨.work (.connected 0), []⟩
  | 5 => .idler ⟨.reply (.opening 0) (.opened (.ok ())), []⟩
  | 6 => .idler ⟨.reply (.checking 0) (.capable (.ok true)), []⟩
  | 7 => .idler ⟨.work (.starting 0), []⟩
  | 8 => .idler ⟨.work .concluding, []⟩
  | 9 => .idler ⟨.work (.finishing (.ok .stopped)), []⟩
  | 10 => .idler ⟨.reply (.closing 0 (.ok .stopped)) .done, []⟩
  | 11 => .idler ⟨.leave (.ok .stopped), []⟩
  | _ => .look

theorem steps : ∀ n, Step settings (course n) (moments n) (course (n + 1))
  | 0 => .signal
  | 1 => .idler (.stop (yields_willing rfl rfl)) nofun
  | 2 => .idler (.enter (yields_willing rfl rfl)) fun _ => ⟨rfl, rfl⟩
  | 3 | 5 | 6 | 10 => .idler (.reply rfl rfl) nofun
  | 4 | 7 | 8 | 9 => .idler (.work rfl nofun (yields_willing rfl rfl)) nofun
  | 11 => .idler .leave nofun
  | _ + 12 => .look

/-- Some moments, from one of them on, latest first. -/
def part (first count : Nat) : List Moment :=
  ((List.range' first count).map moments).reverse

theorem proceeds (n : Nat) : Proceeds settings (course 0) (part 0 n) (course n) := by
  induction n with
  | zero => exact .here
  | succ n ih =>
    unfold part
    rw [List.range'_concat, List.map_append, List.reverse_append, Nat.zero_add, Nat.one_mul]
    exact ih.step (steps n)

end Withdrawal

/-- A stop of an idler applies to one run, the one that goes on if it has not cleared the stop flag
yet and the next one otherwise, and `IDLE` is sent after the stop by later runs only.  A pusher that
is given the stop signal at any point quits. -/
theorem stop_heeded (settings : Settings) (backoff : Backoff) :
    (∀ {older between : List Idle.Moment} {calls : List Idle.Exchange} {sent : Idle.Moment}
      {life : Idle.Life},
      Idle.Lived settings (sent :: (between ++ ⟨.stop, calls⟩ :: older)) life → sent.SendsIdle →
      Idle.stoppedRun older < Idle.runs (between ++ ⟨.stop, calls⟩ :: older)) ∧
    ∀ {history : List Moment} {watch : Watch}, Watched settings backoff history watch →
      Quits settings watch :=
  ⟨fun lived sends => lived.stoppedRun_lt sends, fun watched => watched.quits⟩

open Withdrawal in
/-- The stop in the tour of an idler applies to its one run, and `IDLE` is sent by the next. -/
theorem stop_heeded_withdrawal :
    Idle.stoppedRun (Idle.tour.drop 4) < Idle.runs (Idle.again ++ Idle.tour) ∧
      ¬ Idle.Moment.SendsIdle ⟨.work (.starting 0), []⟩ ∧
      (part 1 11).countP Moment.tells ≤ 1 ∧ (part 1 11).countP Moment.isCall = 1 ∧
      ∃ n, ∀ m ≥ n, (course m).pusher.point = .ended := by
  obtain ⟨heeds, quit⟩ := stop_heeded settings (.starting 1 2)
  have lived : Idle.Lived settings (⟨.work (.starting 0), [.sendCommand 0 "IDLE" (.ok "A1")]⟩ ::
      ((Idle.again ++ Idle.tour.take 3) ++ ⟨.stop, []⟩ :: Idle.tour.drop 4)) _ :=
    Idle.lived_again settings
  have watched : Watched settings (.starting 1 2) [.look] (course 0) := .step .new .look
  have halts : Proceeds settings (course 0) (.idler ⟨.work (.starting 0), []⟩ ::
      (part 2 5 ++ .idler ⟨.stop, []⟩ :: ([] ++ [.signal]))) (course 8) := proceeds 8
  have ended : Proceeds settings (course 0) (part 1 11 ++ [.signal]) (course 12) := proceeds 12
  refine ⟨heeds lived ⟨0, _, .head _⟩, (quit watched).silent halts, (quit watched).tells ended,
    ((quit watched).calls ended).elim nofun And.left, ?_⟩
  exact (quit watched).ends rfl rfl steps fun n going => ⟨n + 12, by omega, going.symm⟩

end MailReplica.Push
