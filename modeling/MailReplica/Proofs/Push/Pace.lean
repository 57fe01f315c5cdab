import Mathlib.Algebra.Group.Nat.Defs
import MailReplica.Idle.Run
import MailReplica.Push.Pusher

/-! # The pace of a pusher

A pusher that nobody stops runs its idler again and again, and what the runs come to says all that
it does: what it tells of each, and how long it waits after each failure (`script`).  The delays of
its backoff double from one failure to the next, up to the limit, and begin anew with a sync; a
backoff by itself gives out such delays however it is used (`Backoff.after_eq`).
-/

namespace MailReplica.Push

open Idle (Ending)

/-! ## Delays -/

namespace Backoff

/-- What is done with a backoff. -/
inductive Call where
  | next
  | reset
  deriving DecidableEq

/-- A backoff after calls, latest first. -/
def after (backoff : Backoff) : List Call → Backoff
  | [] => backoff
  | .next :: past => (backoff.after past).next.2
  | .reset :: past => (backoff.after past).reset

/-- The delay that a backoff gives out after calls. -/
def delayAfter (backoff : Backoff) (past : List Call) : Nat :=
  (backoff.after past).next.1

/-- How many delays were taken since the last reset. -/
def taken : List Call → Nat
  | [] | .reset :: _ => 0
  | .next :: past => taken past + 1

/-- The delay after so many others since the last reset. -/
def pace (initial limit : Nat) : Nat → Nat
  | 0 => initial
  | count + 1 => min (initial * 2 ^ (count + 1)) limit

section Pace

variable {initial limit : Nat}

theorem pace_eq (fits : initial ≤ limit) (count : Nat) :
    pace initial limit count = min (initial * 2 ^ count) limit := by
  cases count with
  | zero => rw [pace, Nat.pow_zero, Nat.mul_one, Nat.min_eq_left fits]
  | succ => rfl

theorem next_pace (initial limit count : Nat) :
    (⟨initial, limit, pace initial limit count⟩ : Backoff).next.2 =
      ⟨initial, limit, pace initial limit (count + 1)⟩ := by
  have doubles : min (pace initial limit count * 2) limit = pace initial limit (count + 1) := by
    cases count with
    | zero => rfl
    | succ count =>
      rw [pace, pace, Nat.pow_succ 2 (count + 1), ← Nat.mul_assoc]
      omega
  exact congrArg (Backoff.mk initial limit) doubles

theorem pace_le {count : Nat} (taken : 0 < count) : pace initial limit count ≤ limit := by
  cases count with
  | zero => cases taken
  | succ => exact Nat.min_le_right _ _

theorem pace_le_pace {count later : Nat} (taken : 0 < count) (le : count ≤ later) :
    pace initial limit count ≤ pace initial limit later := by
  cases count with
  | zero => cases taken
  | succ count =>
    cases later with
    | zero => cases le
    | succ later =>
      have more : initial * 2 ^ (count + 1) ≤ initial * 2 ^ (later + 1) :=
        Nat.mul_le_mul_left _ (Nat.pow_le_pow_right (Nat.succ_pos 1) le)
      exact Nat.le_min.2 ⟨Nat.le_trans (Nat.min_le_left _ _) more, Nat.min_le_right _ _⟩

/-- Whatever is done with a backoff, its delay is told by how many were taken since the last
reset. -/
theorem after_eq (initial limit : Nat) (past : List Call) :
    (starting initial limit).after past = ⟨initial, limit, pace initial limit (taken past)⟩ := by
  induction past with
  | nil => rfl
  | cons call past ih =>
    cases call with
    | next => rw [after, ih, next_pace, taken]
    | reset =>
      rw [after, ih]
      rfl

theorem taken_append {since past : List Call} (kept : .reset ∉ since) :
    taken (since ++ past) = since.length + taken past := by
  induction since with
  | nil => exact (Nat.zero_add _).symm
  | cons call since ih =>
    obtain ⟨own, others⟩ := not_or.1 (mt List.mem_cons.2 kept)
    cases call with
    | next => rw [List.cons_append, taken, ih others, List.length_cons, Nat.add_right_comm]
    | reset => exact absurd rfl own

end Pace

end Backoff

/-! ## A pusher that nobody stops -/

inductive Deed where
  /-- A run of the idler has come to its ending. -/
  | runs (ending : Ending)
  | tells (event : Event)
  | waits (millis : Nat)

/-- The endings of the runs, latest first. -/
def endings (history : List Deed) : List Ending :=
  history.filterMap fun
    | .runs ending => some ending
    | _ => none

inductive Pushes : Pusher → List Deed → Pusher → Prop
  /-- It looks at the stop signal where it has to. -/
  | looks {pusher : Pusher} (has : pusher.look false ≠ pusher) :
      Pushes pusher [] (pusher.look false)
  | takes {pusher : Pusher} (runs : pusher.point = .running) (ending : Ending) :
      Pushes pusher [.runs ending] (pusher.take ending)
  | tells {pusher : Pusher} {event : Event} (tells : pusher.point = .telling event) :
      Pushes pusher [.tells event] pusher.told
  | waits {pusher : Pusher} {millis : Nat} (waits : pusher.point = .waiting millis) :
      Pushes pusher [.waits millis] (pusher.wake false)

/-- A new pusher that nobody stops can have come to some state by the deeds of a history, latest
first. -/
inductive Pushed (backoff : Backoff) : List Deed → Pusher → Prop
  | new : Pushed backoff [] (.new backoff)
  | step {past made : List Deed} {pusher after : Pusher} (pushed : Pushed backoff past pusher)
      (pushes : Pushes pusher made after) : Pushed backoff (made ++ past) after

/-! ## What it has to do -/

/-- Whether no run follows one with such an ending. -/
def isLast : Ending → Bool
  | .ok .stopped | .ok .notSupported => true
  | _ => false

/-- How many runs failed since the last sync, or from the start. -/
def failures : List Ending → Nat
  | [] | .ok .sync :: _ => 0
  | .ok _ :: past => failures past
  | .error _ :: past => failures past + 1

/-- What is done about a run that came to its ending after so many failures in a row. -/
def answer (initial limit failures : Nat) : Ending → List Deed
  | .ok .sync => [.tells .changed]
  | .ok .stopped => []
  | .ok .notSupported => [.tells .notSupported]
  | .error failure => [.waits (min (initial * 2 ^ failures) limit), .tells (.failed failure)]

/-- What is done as runs come to their endings, latest first. -/
def script (initial limit : Nat) : List Ending → List Deed
  | [] => []
  | ending :: past =>
    answer initial limit (failures past) ending ++ .runs ending :: script initial limit past

namespace Pusher

/-- What a pusher is still to do about the run that ended last. -/
def owes (pusher : Pusher) : List Deed :=
  match pusher.point with
  | .met | .telling .changed => [.tells .changed]
  | .failing failure | .telling (.failed failure) =>
    [.waits pusher.backoff.next.1, .tells (.failed failure)]
  | .telling .notSupported => [.tells .notSupported]
  | .waiting millis => [.waits millis]
  | _ => []

/-- The failures for which a pusher has not yet taken the delay. -/
def untaken (pusher : Pusher) : Nat :=
  match pusher.point with
  | .failing _ | .telling (.failed _) => 1
  | _ => 0

/-- Whether a pusher calls for no other run. -/
def closes (pusher : Pusher) : Bool :=
  match pusher.point with
  | .telling .notSupported | .ended => true
  | _ => false

end Pusher

/-- What holds all the time of a pusher that nobody stops. -/
structure Abides (initial limit : Nat) (history : List Deed) (pusher : Pusher) : Prop where
  script : pusher.owes ++ history = script initial limit (endings history)
  last : ∀ ending ∈ (endings history).tail, isLast ending = false
  closes : pusher.closes = (endings history).head?.any isLast
  backoff : ∃ count, failures (endings history) = count + pusher.untaken ∧
    pusher.backoff = ⟨initial, limit, Backoff.pace initial limit count⟩

section Step

variable {initial limit : Nat} {history made : List Deed} {pusher after : Pusher}

theorem Abides.look (abides : Abides initial limit history pusher) :
    Abides initial limit history (pusher.look false) := by
  obtain ⟨point, backoff⟩ := pusher
  cases point <;> exact ⟨abides.script, abides.last, abides.closes, abides.backoff⟩

theorem not_isLast_of_head? {runs : List Ending} (first : runs.head?.any isLast = false)
    (last : ∀ ending ∈ runs.tail, isLast ending = false) :
    ∀ ending ∈ runs, isLast ending = false := by
  cases runs with
  | nil => exact List.forall_mem_nil _
  | cons ending past => exact List.forall_mem_cons.2 ⟨first, last⟩

theorem Abides.take (fits : initial ≤ limit) (abides : Abides initial limit history pusher)
    (runs : pusher.point = .running) (ending : Ending) :
    Abides initial limit (.runs ending :: history) (pusher.take ending) := by
  obtain ⟨point, backoff⟩ := pusher
  obtain rfl : point = .running := runs
  obtain ⟨count, counted, rfl⟩ := abides.backoff
  obtain rfl : failures (endings history) = count := counted
  have script : history = Push.script initial limit (endings history) := abides.script
  have others := not_isLast_of_head? abides.closes.symm abides.last
  have answered (owed : List Deed)
      (answers : owed = answer initial limit (failures (endings history)) ending) :
      owed ++ .runs ending :: history =
        Push.script initial limit (endings (.runs ending :: history)) := by
    rw [answers]
    exact congrArg (_ ++ .runs ending :: ·) script
  rcases ending with failure | (_ | _ | _)
  case ok.sync => exact ⟨answered _ rfl, others, rfl, 0, rfl, rfl⟩
  case ok.stopped => exact ⟨answered _ rfl, others, rfl, _, rfl, rfl⟩
  case ok.notSupported => exact ⟨answered _ rfl, others, rfl, _, rfl, rfl⟩
  case error =>
    refine ⟨answered _ ?_, others, rfl, _, rfl, rfl⟩
    rw [answer, ← Backoff.pace_eq fits]
    rfl

theorem Abides.told (abides : Abides initial limit history pusher) {event : Event}
    (tells : pusher.point = .telling event) :
    Abides initial limit (.tells event :: history) pusher.told := by
  obtain ⟨point, backoff⟩ := pusher
  obtain rfl : point = .telling event := tells
  obtain ⟨count, counted, rfl⟩ := abides.backoff
  cases event with
  | changed => exact ⟨abides.script, abides.last, abides.closes, count, counted, rfl⟩
  | notSupported => exact ⟨abides.script, abides.last, abides.closes, count, counted, rfl⟩
  | failed failure =>
    exact ⟨abides.script, abides.last, abides.closes, count + 1, counted, Backoff.next_pace _ _ _⟩

theorem Abides.wake (abides : Abides initial limit history pusher) {millis : Nat}
    (waits : pusher.point = .waiting millis) :
    Abides initial limit (.waits millis :: history) (pusher.wake false) := by
  obtain ⟨point, backoff⟩ := pusher
  obtain rfl : point = .waiting millis := waits
  exact ⟨abides.script, abides.last, abides.closes, abides.backoff⟩

theorem Pushed.abides (fits : initial ≤ limit)
    (pushed : Pushed (.starting initial limit) history pusher) :
    Abides initial limit history pusher := by
  induction pushed with
  | new => exact ⟨rfl, List.forall_mem_nil _, rfl, 0, rfl, rfl⟩
  | step _ pushes ih =>
    cases pushes with
    | looks => exact ih.look
    | takes runs ending => exact ih.take fits runs ending
    | tells tells => exact ih.told tells
    | waits waits => exact ih.wake waits

end Step

/-! ## What it goes on to do -/

section Pushed

variable {first backoff : Backoff} {history : List Deed}

/-- It does what it is still to do, and then calls for the next run or has ended. -/
def GoesOn (first : Backoff) (history : List Deed) (pusher : Pusher) : Prop :=
  ∃ after, Pushed first (pusher.owes ++ history) after ∧ after.owes = [] ∧
    (after.point = .running ∨ after.point = .ended)

theorem Pushed.goesOn_looking (pushed : Pushed first history ⟨.looking, backoff⟩) :
    GoesOn first history ⟨.looking, backoff⟩ :=
  ⟨_, pushed.step (.looks nofun), rfl, .inl rfl⟩

theorem Pushed.goesOn_waiting {millis : Nat}
    (pushed : Pushed first history ⟨.waiting millis, backoff⟩) :
    GoesOn first history ⟨.waiting millis, backoff⟩ :=
  (pushed.step (.waits rfl)).goesOn_looking

theorem Pushed.goesOn_telling {event : Event}
    (pushed : Pushed first history ⟨.telling event, backoff⟩) :
    GoesOn first history ⟨.telling event, backoff⟩ := by
  have told := pushed.step (.tells rfl)
  cases event with
  | changed => exact told.goesOn_looking
  | failed failure => exact told.goesOn_waiting
  | notSupported => exact ⟨_, told, rfl, .inr rfl⟩

theorem Pushed.goesOn {pusher : Pusher} (pushed : Pushed first history pusher) :
    GoesOn first history pusher := by
  obtain ⟨point, backoff⟩ := pusher
  cases point with
  | looking => exact pushed.goesOn_looking
  | running => exact ⟨_, pushed, rfl, .inl rfl⟩
  | met => exact (pushed.step (.looks nofun)).goesOn_telling
  | failing failure => exact (pushed.step (.looks nofun)).goesOn_telling
  | telling event => exact pushed.goesOn_telling
  | waiting millis => exact pushed.goesOn_waiting
  | ended => exact ⟨_, pushed, rfl, .inr rfl⟩

end Pushed

theorem endings_script (initial limit : Nat) (runs : List Ending) :
    endings (script initial limit runs) = runs := by
  induction runs with
  | nil => rfl
  | cons ending past ih =>
    have answered : endings (answer initial limit (failures past) ending) = [] := by
      rcases ending with failure | (_ | _ | _) <;> rfl
    rw [script, endings, List.filterMap_append]
    change endings _ ++ ending :: endings _ = _
    rw [answered, ih]
    rfl

/-- The script of any runs can be done, if none follows one that no other follows. -/
theorem exists_pushed {initial limit : Nat} (fits : initial ≤ limit) {runs : List Ending}
    (last : ∀ ending ∈ runs.tail, isLast ending = false) :
    ∃ pusher, Pushed (.starting initial limit) (script initial limit runs) pusher ∧
      pusher.owes = [] ∧ (pusher.point = .running ∨ pusher.point = .ended) := by
  induction runs with
  | nil => exact Pushed.new.goesOn
  | cons ending past ih =>
    obtain ⟨pusher, pushed, _, runs | ended⟩ := ih fun ending member =>
      last ending (List.mem_of_mem_tail member)
    · have taken : Pushed _ (.runs ending :: script initial limit past) (pusher.take ending) :=
        pushed.step (.takes runs ending)
      have came : endings (.runs ending :: script initial limit past) = ending :: past :=
        congrArg (ending :: ·) (endings_script initial limit past)
      have scripted := (taken.abides fits).script
      rw [came] at scripted
      rw [← scripted]
      exact taken.goesOn
    · -- The run that came last was one that no other follows.
      have closes := (pushed.abides fits).closes
      rw [endings_script, Pusher.closes, ended] at closes
      obtain ⟨final, latest, is⟩ := (Option.any_eq_true _ _).1 closes.symm
      cases (last final (List.mem_of_mem_head? latest)).symm.trans is

/-! ## All that it does -/

/-- A pusher keeps to the script. -/
structure Scripted (initial limit : Nat) (history : List Deed) (pusher : Pusher) : Prop where
  /-- What it has done, and what it is still to do about the run that ended last, is what the script
  says of the runs. -/
  script : pusher.owes ++ history = script initial limit (endings history)
  /-- It calls for no run after one that no other follows. -/
  last : ∀ ending ∈ (endings history).tail, isLast ending = false
  /-- It has ended if the last run was such a one, and all is done. -/
  ended : pusher.point = .ended ↔
    pusher.owes = [] ∧ (endings history).head?.any isLast = true
  goesOn : GoesOn (.starting initial limit) history pusher

/-- Whatever the runs of its idler come to, a pusher that nobody stops does what the script says of
them, if its first delay is at most the limit.  However a backoff is used, once a delay was taken
since the last reset, the next ones are at most the limit, and never get shorter until the next
reset. -/
theorem pushed_paced (initial limit : Nat) :
    (initial ≤ limit →
      (∀ history pusher, Pushed (.starting initial limit) history pusher →
        Scripted initial limit history pusher) ∧
      ∀ runs : List Ending, (∀ ending ∈ runs.tail, isLast ending = false) →
        ∃ pusher, Pushed (.starting initial limit) (script initial limit runs) pusher ∧
          pusher.owes = [] ∧ (pusher.point = .running ∨ pusher.point = .ended)) ∧
    ∀ past, 0 < Backoff.taken past →
      (Backoff.starting initial limit).delayAfter past ≤ limit ∧
      ∀ since, .reset ∉ since → (Backoff.starting initial limit).delayAfter past ≤
        (Backoff.starting initial limit).delayAfter (since ++ past) := by
  refine ⟨fun fits => ⟨fun history pusher pushed => ?_, fun runs last => exists_pushed fits last⟩,
    fun past taken => ⟨?_, fun since kept => ?_⟩⟩
  · have abides := pushed.abides fits
    refine ⟨abides.script, abides.last, ?_, pushed.goesOn⟩
    rw [← abides.closes]
    obtain ⟨point, backoff⟩ := pusher
    rcases point with _ | _ | _ | _ | (_ | _ | _) | _ | _ <;> simp [Pusher.owes, Pusher.closes]
  · rw [Backoff.delayAfter, Backoff.after_eq]
    exact Backoff.pace_le taken
  · rw [Backoff.delayAfter, Backoff.delayAfter, Backoff.after_eq, Backoff.after_eq,
      Backoff.taken_append kept]
    exact Backoff.pace_le_pace taken (Nat.le_add_left _ _)

/-- Two failures, a sync, a failure, and then the server turns out not to let clients wait. -/
def outage : List Deed :=
  let broken : Failure := .io "connection reset"
  [.tells .notSupported, .runs (.ok .notSupported),
    .waits 5, .tells (.failed broken), .runs (.error broken),
    .tells .changed, .runs (.ok .sync),
    .waits 10, .tells (.failed broken), .runs (.error broken),
    .waits 5, .tells (.failed broken), .runs (.error broken)]

theorem pushed_paced_outage :
    5 ≤ 30 ∧ Pushed (.starting 5 30) outage ⟨.ended, ⟨5, 30, 10⟩⟩ ∧
      Scripted 5 30 outage ⟨.ended, ⟨5, 30, 10⟩⟩ ∧
      (∃ pusher, Pushed (.starting 5 30) (script 5 30 (endings outage)) pusher ∧
        pusher.owes = [] ∧ (pusher.point = .running ∨ pusher.point = .ended)) ∧
      (Backoff.starting 5 30).delayAfter [.next] ≤ 30 ∧
      (Backoff.starting 5 30).delayAfter [.next] ≤
        (Backoff.starting 5 30).delayAfter [.next, .next] := by
  let broken : Failure := .io "connection reset"
  have fails {past : List Deed} {backoff : Backoff}
      (pushed : Pushed (.starting 5 30) past ⟨.looking, backoff⟩) :=
    (((((pushed.step (.looks nofun)).step (.takes rfl (.error broken))).step
      (.looks nofun)).step (.tells rfl)).step (.waits rfl))
  have synced := ((((fails (fails .new)).step (.looks nofun)).step (.takes rfl (.ok .sync))).step
    (.looks nofun)).step (.tells rfl)
  have pushed := (((fails synced).step (.looks nofun)).step (.takes rfl (.ok .notSupported))).step
    (.tells rfl)
  have fits : 5 ≤ 30 := by decide
  have last : ∀ ending ∈ (endings outage).tail, isLast ending = false := by
    simp [outage, endings, isLast]
  have taken : 0 < Backoff.taken [.next] := by decide
  have kept : Backoff.Call.reset ∉ [Backoff.Call.next] := by decide
  obtain ⟨paced, delays⟩ := pushed_paced 5 30
  exact ⟨fits, pushed, (paced fits).1 _ _ pushed, (paced fits).2 _ last, (delays _ taken).1,
    (delays _ taken).2 _ kept⟩

end MailReplica.Push
