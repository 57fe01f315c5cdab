import MailReplica.Proofs.Pass.Falter
import MailReplica.Proofs.Pass.Grammar

/-! # The protocol of a run

Over any sides a run tells its events and makes its calls in the order of its grammar, fails if and
only if a call went wrong, expunges only if nothing did, and tells the first part of what a run
tells in which no call fails (`run_keepsProtocol`).
-/

namespace MailReplica.Reconcile

/-- Whether an event ends a run, well or not. -/
def Event.isEnd : Event → Bool
  | failed _ _ _ | finished _ => true
  | _ => false

/-- What is told before a run ends. -/
def toldBeforeEnd (events : List Event) : List Event :=
  events.takeWhile fun event => !event.isEnd

namespace Pass

variable {σ ρ : Type} {folder : String} {settings : PassSettings}

/-! ## When a run fails -/

theorem halt?_eq_none_iff (exchange : Exchange) :
    exchange.halt? folder = none ↔
      exchange.failure? = none ∧ ∀ count, exchange = .count (.ok count) → 0 ≤ count := by
  cases exchange with
  | count answer =>
    cases answer with
    | ok count =>
      unfold Exchange.halt? Exchange.failure? refusal?
      grind
    | error failure => simp [Exchange.halt?, Exchange.failure?, refusal?]
  | folder id answer => cases answer <;> simp [Exchange.halt?, Exchange.failure?, refusal?]
  | openFolder mode answer => cases answer <;> simp [Exchange.halt?, Exchange.failure?, refusal?]
  | list first last cutoff answer =>
    cases answer <;> simp [Exchange.halt?, Exchange.failure?, refusal?]
  | fetch uid extent answer => cases answer <;> simp [Exchange.halt?, Exchange.failure?, refusal?]
  | expunge answer => cases answer <;> simp [Exchange.halt?, Exchange.failure?, refusal?]
  | close => simp [Exchange.halt?, Exchange.failure?]

theorem clean_iff {trace : Trace} :
    trace.Clean folder ↔
      (∀ exchange ∈ trace.kept, exchange.failure? = none) ∧
      (∀ exchange ∈ trace.asked, exchange.failure? = none) ∧
      ∀ count, .count (.ok count) ∈ trace.asked → 0 ≤ count := by
  constructor
  · rintro ⟨asked, kept⟩
    refine ⟨kept, fun exchange made => ((halt?_eq_none_iff exchange).1 (asked exchange made)).1, ?_⟩
    intro count made
    exact ((halt?_eq_none_iff _).1 (asked _ made)).2 count rfl
  · rintro ⟨kept, asked, usable⟩
    refine ⟨fun exchange made => (halt?_eq_none_iff exchange).2 ⟨asked exchange made, ?_⟩, kept⟩
    rintro count rfl
    exact usable count made

theorem isEnd_of_told {trace : Trace} (grammatical : Grammatical folder settings trace) :
    ∀ event ∈ trace.told, event.isEnd = false := by
  cases grammatical with
  | unprepared => simp
  | absent => simp
  | unopened => simp
  | uncounted => simp [Event.isEnd]
  | opened usable continues =>
    obtain ⟨outline, lists, fetches, expunges, continued⟩ := continues
    dsimp only
    rw [continued.told]
    simp only [Outline.told, List.mem_cons, List.mem_append, List.mem_map]
    rintro event (rfl | (⟨message, _, rfl⟩ | ⟨message, _, rfl⟩) | ⟨id, _, rfl⟩)
    · rfl
    · unfold Outline.tellUpdated
      split <;> rfl
    · rfl
    · rfl

/-- A run tells of a failure if and only if a call went wrong. -/
theorem failed_iff {trace : Trace} {failure : List Event}
    (grammatical : Grammatical folder settings trace) (ending : Ending folder trace failure) :
    (∃ event ∈ Event.started folder :: (trace.told ++ failure ++ [.finished folder]),
      event.isFailure = true) ↔ ¬trace.Clean folder := by
  cases ending with
  | well clean =>
    refine iff_of_false ?_ (not_not.2 clean)
    rintro ⟨event, told, failed⟩
    simp only [List.append_nil, List.mem_cons, List.mem_append, List.not_mem_nil, or_false] at told
    obtain rfl | told | rfl := told
    · cases failed
    · have goesOn := isEnd_of_told grammatical event told
      cases event with
      | failed => cases goesOn
      | _ => cases failed
    · cases failed
  | @ill halt blamed =>
    refine iff_of_true ⟨.failed folder (halt.step.text folder ++ ": " ++ halt.failure.text)
      halt.failure, ?_, rfl⟩ blamed.not_clean
    simp

theorem mem_fetches {fetched : List Listed} {fetches : List Exchange}
    (fetching : Outline.Fetches settings fetched fetches) {exchange : Exchange}
    (made : exchange ∈ fetches) :
    ∃ message ∈ fetched, ∃ answer,
      exchange = .fetch message.uid (extent settings message).1 answer := by
  induction fetching with
  | nil => cases made
  | @cons message _ _ _ first _ ih =>
    cases made with
    | head => exact ⟨message, List.mem_cons_self, first⟩
    | tail _ made =>
      obtain ⟨message', member, answered⟩ := ih made
      exact ⟨message', List.mem_cons_of_mem _ member, answered⟩

/-- The calls of a run from its listing on are of three kinds. -/
theorem mem_continued {count : Int} {all : Prop} {outline : Outline}
    {lists fetches expunges : List Exchange} {trace : Trace}
    (continued : Continued folder settings count all outline lists fetches expunges trace)
    {exchange : Exchange} (made : exchange ∈ trace.asked) :
    (∃ first last answer, windowOf settings count = some (first, last) ∧
        exchange = .list first last settings.cutoff answer) ∨
      (∃ message ∈ outline.fetched, ∃ answer,
        exchange = .fetch message.uid (extent settings message).1 answer) ∨
      ∃ answer, exchange = .expunge answer := by
  rw [continued.asked, List.mem_append, List.mem_append] at made
  obtain (listing | fetching) | expunging := made
  · obtain rfl | ⟨first, last, answer, within, rfl⟩ := continued.listing
    · cases listing
    · exact .inl ⟨first, last, answer, within, List.mem_singleton.1 listing⟩
  · exact .inr (.inl (mem_fetches continued.fetching fetching))
  · obtain rfl | ⟨_, _, answer, rfl⟩ := continued.expunging
    · cases expunging
    · exact .inr (.inr ⟨answer, List.mem_singleton.1 expunging⟩)

/-- No listing is asked for of a folder without messages. -/
theorem not_listed_of_empty {trace : Trace} (grammatical : Grammatical folder settings trace)
    (empty : .count (.ok 0) ∈ trace.asked) (first last : UInt32) (cutoff : Option DatedInstant)
    (answer : Except Failure (List Listed)) : .list first last cutoff answer ∉ trace.asked := by
  cases grammatical with
  | unprepared => cases empty
  | absent => simp
  | unopened => simp
  | uncounted => simp
  | @opened count trace usable continues =>
    obtain ⟨outline, lists, fetches, expunges, continued⟩ := continues
    intro lists
    simp only [List.mem_cons, List.mem_append, reduceCtorEq, false_or, List.not_mem_nil,
      or_false] at empty lists
    obtain ⟨_, _, _, within, _⟩ | ⟨_, _, _, fetches⟩ | ⟨_, expunges⟩ :=
      mem_continued continued lists
    · obtain counted | later := empty
      · cases counted
        cases within
      · obtain ⟨_, _, _, _, lists⟩ | ⟨_, _, _, fetches⟩ | ⟨_, expunges⟩ :=
          mem_continued continued later
        · cases lists
        · cases fetches
        · cases expunges
    · cases fetches
    · cases expunges

/-- A run expunges if and only if its settings say so and nothing went wrong before. -/
theorem expunged_iff {trace : Trace} (grammatical : Grammatical folder settings trace) :
    (∃ answer, .expunge answer ∈ trace.asked) ↔
      settings.expungePolicy = .onPoll ∧
      (∀ exchange ∈ trace.asked, (∀ answer, exchange ≠ .expunge answer) →
        exchange.halt? folder = none) ∧
      ∀ exchange ∈ trace.kept, exchange.failure? = none := by
  cases grammatical with
  | unprepared failure =>
    refine iff_of_false (by simp) fun ⟨_, _, kept⟩ => ?_
    cases kept _ (List.mem_singleton_self _)
  | absent failure kept =>
    refine iff_of_false (by simp) fun ⟨_, asked, _⟩ => ?_
    cases asked _ (List.mem_singleton_self _) nofun
  | unopened failure kept =>
    refine iff_of_false (by simp) fun ⟨_, asked, _⟩ => ?_
    cases asked (.openFolder .readOnly (.error failure)) (by simp) nofun
  | uncounted answer kept unusable =>
    refine iff_of_false (by simp) fun ⟨_, asked, _⟩ => ?_
    have usable := asked (.count answer) (by simp) nofun
    obtain ⟨answered, notNegative⟩ := (halt?_eq_none_iff _).1 usable
    cases answer with
    | error failure => cases answered
    | ok count => exact absurd (notNegative count rfl) (Int.not_le.2 (unusable count rfl))
  | @opened count trace usable continues =>
    obtain ⟨outline, lists, fetches, expunges, continued⟩ := continues
    have counted : Exchange.halt? folder (.count (.ok count)) = none := if_neg (Int.not_lt.2 usable)
    have isFetch : ∀ exchange ∈ fetches, ∀ answer, exchange ≠ .expunge answer := by
      intro exchange made answer
      obtain ⟨message, _, answer', rfl⟩ := mem_fetches continued.fetching made
      nofun
    have isList : ∀ exchange ∈ lists, ∀ answer, exchange ≠ .expunge answer := by
      obtain rfl | ⟨first, last, answer, _, rfl⟩ := continued.listing
      · simp
      · simp
    constructor
    · rintro ⟨answer, made⟩
      simp only [continued.asked, List.mem_cons, List.mem_append, reduceCtorEq, false_or,
        List.not_mem_nil, or_false] at made
      obtain (made | made) | made := made
      · exact absurd rfl (isList _ made answer)
      · exact absurd rfl (isFetch _ made answer)
      obtain rfl | ⟨onPoll, clean, answer', rfl⟩ := continued.expunging
      · cases made
      refine ⟨onPoll, ?_, clean.kept⟩
      intro exchange made' other
      simp only [continued.asked, List.mem_cons, List.mem_append, List.not_mem_nil,
        or_false] at made'
      obtain rfl | rfl | rfl | ((made' | made') | rfl) | rfl := made'
      · rfl
      · rfl
      · exact counted
      · exact clean.asked exchange (List.mem_append_left _ made')
      · exact clean.asked exchange (List.mem_append_right _ made')
      · exact absurd rfl (other answer')
      · rfl
    · rintro ⟨onPoll, asked, kept⟩
      obtain rfl | ⟨_, _, answer, rfl⟩ := continued.expunging
      · -- Without a request to expunge nothing went wrong at all, and then there has to be one.
        refine absurd rfl ((continued.complete ⟨fun exchange made => ?_, kept⟩).2 onPoll)
        refine asked exchange (by simp [made]) ?_
        rw [continued.asked, List.append_nil] at made
        exact (List.mem_append.1 made).elim (isList exchange) (isFetch exchange)
      · exact ⟨answer, by simp [continued.asked]⟩

/-! ## The protocol -/

theorem toldBeforeEnd_eq {told failure : List Event} (goesOn : ∀ event ∈ told, event.isEnd = false)
    (ends : ∀ event ∈ failure, event.isEnd = true) :
    toldBeforeEnd (.started folder :: (told ++ failure ++ [.finished folder])) =
      .started folder :: told := by
  have before : ∀ event ∈ Event.started folder :: told, (!event.isEnd) = true := by
    rintro event (_ | ⟨_, tells⟩)
    · rfl
    · rw [goesOn event tells]
      rfl
  have stops : (failure ++ [Event.finished folder]).takeWhile (fun event => !event.isEnd) = [] := by
    cases failure with
    | nil => rfl
    | cons event rest =>
      rw [List.cons_append, List.takeWhile_cons_of_neg]
      simp [ends event List.mem_cons_self]
  unfold toldBeforeEnd
  rw [List.append_assoc, ← List.cons_append, List.takeWhile_append_of_pos before, stops,
    List.append_nil]

theorem toldBeforeEnd_run (sides : Sides σ ρ) (folder : String) (settings : PassSettings)
    (store : σ) (server : ρ) :
    toldBeforeEnd (events (run sides folder settings store server)) =
      (whole sides folder settings (begun folder store server)).2.told.reverse := by
  obtain ⟨told, tells, events, grammatical, _⟩ := run_traced sides folder settings store server
  have ends {result : Except Halt Unit} : ∀ event ∈ failureOf folder result,
      event.isEnd = true := by
    cases result with
    | ok => exact List.forall_mem_nil _
    | error halt => exact List.forall_mem_singleton.2 rfl
  rw [events, tells, toldBeforeEnd_eq (isEnd_of_told grammatical) ends, List.reverse_append,
    List.reverse_reverse]
  rfl

/-- A run tells the first part of what a run tells over sides that give the same answers. -/
theorem prefix_of_falters {σ' ρ' : Type} {sides : Sides σ ρ} {sound : Sides σ' ρ'}
    {shown : σ → σ'} {seen : ρ → ρ'} (falters : Falters sides sound shown seen) (folder : String)
    (settings : PassSettings) (store : σ) (server : ρ) :
    toldBeforeEnd (events (run sides folder settings store server)) <+:
      toldBeforeEnd (events (run sound folder settings (shown store) (seen server))) := by
  have indifferent : Onward sides.store sound.store shown fun _ _ => True :=
    ⟨fun _ => trivial, fun _ _ _ _ _ => trivial, fun _ _ _ _ => trivial⟩
  rw [toldBeforeEnd_run, toldBeforeEnd_run, List.reverse_prefix]
  exact (whole_overtaken falters indifferent folder settings store server).2

/-- How a run over `folder` goes. -/
structure KeepsProtocol (sides : Sides σ ρ) (folder : String) (settings : PassSettings) (store : σ)
    (server : ρ) : Prop where
  /-- Its events and calls are in order, and its end tells whether a call went wrong, and why. -/
  ordered : ∃ told failure,
    events (run sides folder settings store server) =
      .started folder :: (told ++ failure ++ [.finished folder]) ∧
    Grammatical folder settings
      ⟨told, serverCalls sides folder settings store server,
        storeCalls sides folder settings store server⟩ ∧
    Ending folder
      ⟨told, serverCalls sides folder settings store server,
        storeCalls sides folder settings store server⟩ failure
  failed : (∃ event ∈ events (run sides folder settings store server), event.isFailure = true) ↔
    (∃ exchange ∈ storeCalls sides folder settings store server, exchange.failure? ≠ none) ∨
    (∃ exchange ∈ serverCalls sides folder settings store server, exchange.failure? ≠ none) ∨
    ∃ count : Int, count < 0 ∧
      .count (.ok count) ∈ serverCalls sides folder settings store server
  /-- No listing is asked for of a folder without messages. -/
  empty : .count (.ok 0) ∈ serverCalls sides folder settings store server →
    ∀ first last cutoff answer,
      .list first last cutoff answer ∉ serverCalls sides folder settings store server
  /-- The server is asked to expunge exactly if it is time to and no other call went wrong. -/
  expunged : (∃ answer, .expunge answer ∈ serverCalls sides folder settings store server) ↔
    settings.expungePolicy = .onPoll ∧
    (∀ exchange ∈ serverCalls sides folder settings store server,
      (∀ answer, exchange ≠ .expunge answer) → exchange.halt? folder = none) ∧
    ∀ exchange ∈ storeCalls sides folder settings store server, exchange.failure? = none
  /-- The numbering is looked at when the messages are counted, and then no more. -/
  numbered : run (sides.reporting (reported sides folder store server)) folder settings store
    server = run sides folder settings store server
  /-- Up to its end it tells the first part of what a run over sound sides tells. -/
  interrupted : ∀ {σ' ρ' : Type} {sound : Sides σ' ρ'} {shown : σ → σ'} {seen : ρ → ρ'},
    Falters sides sound shown seen →
    toldBeforeEnd (events (run sides folder settings store server)) <+:
      toldBeforeEnd (events (run sound folder settings (shown store) (seen server)))

theorem run_keepsProtocol (sides : Sides σ ρ) (folder : String) (settings : PassSettings)
    (store : σ) (server : ρ) : KeepsProtocol sides folder settings store server := by
  obtain ⟨told, _, events, grammatical, ending⟩ :=
    run_traced sides folder settings store server
  refine ⟨⟨told, _, events, grammatical, ending⟩, ?_, not_listed_of_empty grammatical,
    expunged_iff grammatical, run_reporting sides folder settings store server,
    fun falters => prefix_of_falters falters folder settings store server⟩
  rw [events, failed_iff grammatical ending, clean_iff]
  -- What remains is how the negation goes through the three clauses.
  simp only [not_and_or, not_forall, Int.not_le, exists_prop]
  grind

end Pass

end MailReplica.Reconcile
