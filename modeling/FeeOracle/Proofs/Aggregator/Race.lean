import FeeOracle.Aggregator.Race
import FeeOracle.Proofs.Aggregator.Round

/-!
# What two lookups bring

However two lookups go, a quote that either brings is the one that its sources determine
(`Race.Sound.outcome`), and so is a failure. Two lookups that go on come to an end, because their
common clock moves whenever all sources of both were looked at in vain and none of the two has
decided (`Race.isSome_outcome?_of_cycles`).
-/

namespace FeeOracle

/-- Both prices of two lookups, if both bring one. -/
def bothPrices? (first second : Except NoQuote Double) : Option (Double × Double) :=
  match first, second with
  | .ok x, .ok y => some (x, y)
  | _, _ => none

theorem bothPrices?_of_error (outcome : Side → Except NoQuote Double) {side : Side}
    {cause : NoQuote} (h : outcome side = .error cause) :
    bothPrices? (outcome .first) (outcome .second) = none := by
  cases side with
  | first => simp [bothPrices?, h]
  | second => cases hfirst : outcome .first <;> simp [bothPrices?, h]

namespace Round

variable {aggregator : Aggregator} {now : Nat} {pair : TickerPair} {round : Round}

/-- A round that is over has brought the readings that the sources determine. -/
theorem Sound.readings?_eq (hsound : round.Sound aggregator now pair) :
    round.readings? = if round.isOver then some (aggregator.readings pair) else none := by
  unfold readings?
  split
  next hover => rw [hsound.answers_eq hover, hsound.pair_eq, Aggregator.readings]
  next => rfl

theorem Sound.quote?_eq (hsound : round.Sound aggregator now pair) :
    round.quote? = if round.isOver then some (aggregator.quote pair) else none := by
  rw [quote?, hsound.readings?_eq, hsound.pair_eq]
  split <;> rfl

theorem Sound.endEvents_eq (hsound : round.Sound aggregator now pair) (side : Side) :
    round.endEvents side =
      if round.isOver then [.lookedUp side (aggregator.warnings pair)] else [] := by
  rw [endEvents, hsound.readings?_eq, hsound.pair_eq]
  split <;> rfl

theorem quote?_eq_none (h : round.isOver = false) : round.quote? = none := by
  simp [quote?, readings?, h]

theorem sound_of_round? (h : aggregator.round? now pair = some round) :
    round.Sound aggregator now pair ∧ round.clock = now := by
  have hround : aggregator.roundAfter? now pair [] = some round := by
    rw [Aggregator.roundAfter?, h]
    rfl
  refine ⟨Aggregator.sound_of_roundAfter? hround, ?_⟩
  obtain ⟨deadline, -, rfl⟩ := Option.map_eq_some_iff.1 h
  rfl

theorem isOver_eq_false_of_isOpen {question : Question} (hquestion : question ∈ round.questions)
    (hopen : question.isOpen = true) : round.isOver = false := by
  by_contra hover
  rw [Bool.not_eq_false, isOver_iff] at hover
  rw [hover question hquestion] at hopen
  cases hopen

/-- A round that is not over has not been over before. -/
theorem isOver_eq_false_of_run {turns : List Turn} (h : (round.run turns).isOver = false) :
    round.isOver = false := by
  by_contra hover
  rw [isOver_run (by simpa using hover)] at h
  cases h

/-- No source wakes a round before a moment that comes before all of them. -/
theorem nextWake_eq_self {moment : Nat}
    (h : ∀ source ∈ round.waitedFor, moment ≤ round.due source) :
    round.nextWake moment = moment := by
  apply Nat.le_antisymm
  · exact (le_nextWake_iff.1 (Nat.le_refl _)).1
  · exact le_nextWake_iff.2 ⟨Nat.le_refl moment, h⟩

end Round

namespace Race

variable {race next : Race} {inquiry : Side → Inquiry} {now : Nat}

/-! ### What a turn does -/

/-- A lookup is begun unless it is begun already. -/
theorem ask_cases {side : Side} (h : race.ask side = some next) :
    (∃ round, race.rounds side = some round) ∧ next = race ∨
      race.rounds side = none ∧ ∃ round,
        (race.inquiry side).aggregator.round? race.clock (race.inquiry side).pair = some round ∧
          next = race.put side round (.asked side :: round.endEvents side) := by
  unfold ask at h
  split at h
  next round hround => exact .inl ⟨⟨round, hround⟩, (Option.some.inj h).symm⟩
  next hnone =>
    obtain ⟨round, hround, rfl⟩ := Option.map_eq_some_iff.1 h
    exact .inr ⟨hnone, round, hround, rfl⟩

/-- A look goes to a lookup that is on its way; any other is in vain. -/
theorem look_cases (race : Race) (side : Side) (index : Nat) :
    (∀ round, race.rounds side = some round → round.isOver = true) ∧ race.look side index = race ∨
      ∃ round, race.rounds side = some round ∧ round.isOver = false ∧
        race.look side index =
          race.put side (round.turn (.look index)) ((round.turn (.look index)).endEvents side) := by
  unfold look
  cases hround : race.rounds side with
  | none => exact .inl ⟨by simp, rfl⟩
  | some round =>
    cases hover : round.isOver with
    | true => exact .inl ⟨by simp [hover], by simp [hover]⟩
    | false => exact .inr ⟨round, rfl, hover, by simp [hover]⟩

theorem wait_eq_of_rounds {first second : Round} (hfirst : race.rounds .first = some first)
    (hsecond : race.rounds .second = some second) (time : Nat) :
    race.wait time =
      let moment := first.nextWake (second.nextWake (race.clock + time))
      { race with
        clock := moment
        rounds := fun side => (race.rounds side).map (·.turn (.wait (moment - race.clock))) } := by
  rw [wait, hfirst, hsecond]

/-- Time goes by for both lookups once both are begun, and otherwise not. -/
theorem wait_cases (race : Race) (time : Nat) :
    race.wait time = race ∨
      ∃ first second, race.rounds .first = some first ∧ race.rounds .second = some second ∧
        race.wait time =
          let moment := first.nextWake (second.nextWake (race.clock + time))
          { race with
            clock := moment
            rounds := fun side => (race.rounds side).map
                (·.turn (.wait (moment - race.clock))) } := by
  cases hfirst : race.rounds .first with
  | none => exact .inl (by rw [wait, hfirst])
  | some first =>
    cases hsecond : race.rounds .second with
    | none => exact .inl (by rw [wait, hfirst, hsecond])
    | some second => exact .inr ⟨first, second, rfl, rfl, wait_eq_of_rounds hfirst hsecond time⟩

/-- Nothing happens any more once it is decided what comes of the lookups. -/
theorem turn_cases {turn : RaceTurn} (h : race.turn turn = some next) :
    next = race ∨ race.outcome? = none ∧ race.step turn = some next := by
  unfold Race.turn at h
  split at h
  next => exact .inl (Option.some.inj h).symm
  next hundecided => exact .inr ⟨Option.not_isSome_iff_eq_none.1 hundecided, h⟩

/-- What every turn keeps, any turns keep. -/
theorem run_induction (holds : Race → Prop)
    (hturn : ∀ {race turn next}, holds race → race.turn turn = some next → holds next)
    (hrace : holds race) {turns : List RaceTurn} (h : race.run turns = some next) : holds next := by
  induction turns generalizing race with
  | nil =>
    obtain rfl := Option.some.inj h
    exact hrace
  | cons turn turns ih =>
    obtain ⟨middle, hmiddle, hrest⟩ := Option.bind_eq_some_iff.1 h
    exact ih (hturn hrace hmiddle) hrest

/-! ### What holds of two lookups at any time -/

/-- What holds, at any time, of two lookups that are begun at a given time. -/
structure Sound (race : Race) (inquiry : Side → Inquiry) (now : Nat) : Prop where
  inquiry_eq : race.inquiry = inquiry
  round_sound : ∀ side round, race.rounds side = some round →
    round.Sound (inquiry side).aggregator now (inquiry side).pair
  /-- No time goes by before both are begun. -/
  clock_eq_now : ∀ side, race.rounds side = none → race.clock = now
  clock_le : ∀ side round, race.rounds side = some round → round.clock ≤ race.clock
  /-- A lookup that is on its way has the same time as the other one. -/
  clock_eq :
    ∀ side round, race.rounds side = some round → round.isOver = false → round.clock = race.clock
  warnings_eq : ∀ side warnings, .lookedUp side warnings ∈ race.events →
    warnings = (inquiry side).aggregator.warnings (inquiry side).pair

theorem sound_start (inquiry : Side → Inquiry) (now : Nat) :
    Sound { inquiry, clock := now } inquiry now where
  inquiry_eq := rfl
  round_sound := by simp
  clock_eq_now := fun _ _ => rfl
  clock_le := by simp
  clock_eq := by simp
  warnings_eq := by simp

namespace Sound

/-- A lookup may be replaced by one for the same pair at the same time. -/
theorem put (hsound : race.Sound inquiry now) {side : Side} {round : Round}
    {events : List RaceEvent}
    (hround : round.Sound (inquiry side).aggregator now (inquiry side).pair)
    (hclock : round.clock = race.clock)
    (hevents : ∀ event ∈ events, event = .asked side ∨ event ∈ round.endEvents side) :
    (race.put side round events).Sound inquiry now where
  inquiry_eq := hsound.inquiry_eq
  round_sound := by
    intro other otherRound hother
    simp only [Race.put] at hother
    split at hother
    next heq =>
      obtain rfl := Option.some.inj hother
      rwa [heq]
    next => exact hsound.round_sound other otherRound hother
  clock_eq_now := by
    intro other hother
    simp only [Race.put] at hother
    split at hother
    next => cases hother
    next => exact hsound.clock_eq_now other hother
  clock_le := by
    intro other otherRound hother
    simp only [Race.put] at hother
    split at hother
    next =>
      obtain rfl := Option.some.inj hother
      exact Nat.le_of_eq hclock
    next => exact hsound.clock_le other otherRound hother
  clock_eq := by
    intro other otherRound hother hopen
    simp only [Race.put] at hother
    split at hother
    next =>
      obtain rfl := Option.some.inj hother
      exact hclock
    next => exact hsound.clock_eq other otherRound hother hopen
  warnings_eq := by
    intro other warnings hmem
    rcases List.mem_append.1 hmem with hbefore | hnew
    · exact hsound.warnings_eq other warnings hbefore
    · rcases hevents _ hnew with hasked | hend
      · cases hasked
      · rw [hround.endEvents_eq] at hend
        split at hend
        · obtain ⟨rfl, rfl⟩ : other = side ∧ _ := by simpa using hend
          rfl
        · cases hend

theorem ask (hsound : race.Sound inquiry now) {side : Side} (h : race.ask side = some next) :
    next.Sound inquiry now := by
  obtain ⟨-, rfl⟩ | ⟨hnone, round, hround, rfl⟩ := ask_cases h
  · exact hsound
  · rw [hsound.inquiry_eq, hsound.clock_eq_now side hnone] at hround
    obtain ⟨hroundSound, hclock⟩ := Round.sound_of_round? hround
    exact hsound.put hroundSound (hclock.trans (hsound.clock_eq_now side hnone).symm)
      fun event hevent => List.mem_cons.1 hevent

theorem look (hsound : race.Sound inquiry now) (side : Side) (index : Nat) :
    (race.look side index).Sound inquiry now := by
  obtain ⟨-, hsame⟩ | ⟨round, hround, hover, hnext⟩ := look_cases race side index
  · rwa [hsame]
  · rw [hnext]
    exact hsound.put ((hsound.round_sound side round hround).turn (.look index))
      (hsound.clock_eq side round hround hover) fun _ => .inr

/-- A lookup that is waited for is not due before now. -/
theorem clock_le_due (hsound : race.Sound inquiry now) {side : Side} {round : Round}
    (hround : race.rounds side = some round) {source : Source}
    (hsource : source ∈ round.waitedFor) : race.clock ≤ round.due source := by
  obtain ⟨question, hquestion, hopen, rfl⟩ := Round.mem_waitedFor.1 hsource
  rw [← hsound.clock_eq side round hround (Round.isOver_eq_false_of_isOpen hquestion hopen)]
  exact (hsound.round_sound side round hround).clock_le_due question hquestion hopen

end Sound

/-- The clock stops at the first source of either lookup that is waited for. -/
theorem le_moment_iff {first second : Round} (hfirst : race.rounds .first = some first)
    (hsecond : race.rounds .second = some second) {bound moment : Nat} :
    bound ≤ first.nextWake (second.nextWake moment) ↔
      bound ≤ moment ∧ ∀ side round, race.rounds side = some round → ∀ source ∈ round.waitedFor,
        bound ≤ round.due source := by
  rw [Round.le_nextWake_iff, Round.le_nextWake_iff]
  constructor
  · rintro ⟨⟨hmoment, hsecondDue⟩, hfirstDue⟩
    refine ⟨hmoment, fun side round hround => ?_⟩
    cases side with
    | first =>
      obtain rfl := Option.some.inj (hfirst.symm.trans hround)
      exact hfirstDue
    | second =>
      obtain rfl := Option.some.inj (hsecond.symm.trans hround)
      exact hsecondDue
  · rintro ⟨hmoment, hdue⟩
    exact ⟨⟨hmoment, hdue .second second hsecond⟩, hdue .first first hfirst⟩

namespace Sound

theorem wait (hsound : race.Sound inquiry now) (time : Nat) :
    (race.wait time).Sound inquiry now := by
  obtain hsame | ⟨first, second, hfirst, hsecond, hnext⟩ := wait_cases race time
  · rwa [hsame]
  · rw [hnext]
    obtain ⟨-, hdue⟩ := (le_moment_iff hfirst hsecond).1
      (Nat.le_refl (first.nextWake (second.nextWake (race.clock + time))))
    have hlater : race.clock ≤ first.nextWake (second.nextWake (race.clock + time)) :=
      (le_moment_iff hfirst hsecond).2
        ⟨Nat.le_add_right race.clock time, fun side round hround source =>
          hsound.clock_le_due hround⟩
    dsimp only
    generalize first.nextWake (second.nextWake (race.clock + time)) = moment at hdue hlater
    exact {
      inquiry_eq := hsound.inquiry_eq
      round_sound := by
        intro side round hround
        obtain ⟨before, hbefore, rfl⟩ := Option.map_eq_some_iff.1 hround
        exact (hsound.round_sound side before hbefore).turn _
      clock_eq_now := by
        intro side hnone
        cases side with
        | first => simp [hfirst] at hnone
        | second => simp [hsecond] at hnone
      clock_le := by
        intro side round hround
        obtain ⟨before, hbefore, rfl⟩ := Option.map_eq_some_iff.1 hround
        cases hover : before.isOver with
        | true =>
          rw [Round.turn_of_isOver hover]
          exact Nat.le_trans (hsound.clock_le side before hbefore) hlater
        | false =>
          rw [Round.turn_wait hover, hsound.clock_eq side before hbefore hover,
            Nat.add_sub_cancel' hlater]
          exact (Round.le_nextWake_iff.1 (Nat.le_refl _)).1
      clock_eq := by
        intro side round hround hopen
        obtain ⟨before, hbefore, rfl⟩ := Option.map_eq_some_iff.1 hround
        cases hover : before.isOver with
        | true => simp [Round.turn_of_isOver hover, hover] at hopen
        | false =>
          rw [Round.turn_wait hover, hsound.clock_eq side before hbefore hover,
            Nat.add_sub_cancel' hlater]
          exact Round.nextWake_eq_self (hdue side before hbefore)
      warnings_eq := hsound.warnings_eq }

/-- Every turn keeps what holds of two lookups. -/
theorem turn (hsound : race.Sound inquiry now) {turn : RaceTurn} (h : race.turn turn = some next) :
    next.Sound inquiry now := by
  obtain rfl | ⟨-, hstep⟩ := turn_cases h
  · exact hsound
  · cases turn with
    | ask side => exact hsound.ask hstep
    | look side index =>
      obtain rfl := Option.some.inj hstep
      exact hsound.look side index
    | wait time =>
      obtain rfl := Option.some.inj hstep
      exact hsound.wait time

/-- So do any turns. -/
theorem run (hsound : race.Sound inquiry now) {turns : List RaceTurn}
    (h : race.run turns = some next) : next.Sound inquiry now :=
  run_induction (Sound · inquiry now) (fun hsound => hsound.turn) hsound h

/-- A lookup that is over has brought the quote that its sources determine. -/
theorem quote_eq (hsound : race.Sound inquiry now) {side : Side} {quote : Except NoQuote Double}
    (h : race.quote? side = some quote) :
    (inquiry side).aggregator.quote (inquiry side).pair = quote := by
  obtain ⟨round, hround, hquote⟩ := Option.bind_eq_some_iff.1 h
  rw [(hsound.round_sound side round hround).quote?_eq] at hquote
  split at hquote
  · exact Option.some.inj hquote
  · cases hquote

end Sound

/-! ### What comes of two lookups -/

theorem outcome?_eq_ok_iff {x y : Double} :
    race.outcome? = some (.ok (x, y)) ↔
      race.quote? .first = some (.ok x) ∧ race.quote? .second = some (.ok y) := by
  unfold outcome?
  split <;> simp_all

theorem quote?_of_outcome?_error {cause : NoQuote} (h : race.outcome? = some (.error cause)) :
    ∃ side, race.quote? side = some (.error cause) := by
  unfold outcome? at h
  split at h
  next hfirst =>
    cases h
    exact ⟨.first, hfirst⟩
  next hsecond _ =>
    cases h
    exact ⟨.second, hsecond⟩
  next => cases h
  next => cases h

theorem outcome?_eq_error {side : Side} {cause : NoQuote}
    (hside : race.quote? side = some (.error cause))
    (hothers : ∀ other, other ≠ side → ∀ failure, race.quote? other ≠ some (.error failure)) :
    race.outcome? = some (.error cause) := by
  unfold outcome?
  cases side with
  | first => rw [hside]
  | second =>
    have hfirst := hothers .first (by decide)
    rw [hside]
    split <;> simp_all

/-- Nothing is decided as long as one of the lookups is not over and none has failed. -/
theorem outcome?_eq_none_iff :
    race.outcome? = none ↔
      (∃ side, race.quote? side = none) ∧ ∀ side cause, race.quote? side ≠ some (.error cause) := by
  have hsides : ∀ {p : Side → Prop}, (∀ side, p side) ↔ p .first ∧ p .second :=
    ⟨fun h => ⟨h .first, h .second⟩, fun h side => by cases side <;> simp [h]⟩
  have hsome : (∃ side, race.quote? side = none) ↔
      race.quote? .first = none ∨ race.quote? .second = none := by
    rw [← not_iff_not, not_exists, hsides, not_or]
  rw [hsides, hsome]
  rcases hfirst : race.quote? .first with _ | _ | _ <;> rcases hsecond :
    race.quote? .second with _ | _ | _ <;>
    simp [outcome?, hfirst, hsecond]

/-- However two lookups go, both quotes are those that the sources determine, and so is a
    failure. -/
theorem Sound.outcome (hsound : race.Sound inquiry now) {outcome : Except NoQuote (Double × Double)}
    (h : race.outcome? = some outcome) :
    (∃ x y, outcome = .ok (x, y) ∧ (inquiry .first).aggregator.quote (inquiry .first).pair = .ok x ∧
      (inquiry .second).aggregator.quote (inquiry .second).pair = .ok y) ∨
    ∃ cause side, outcome = .error cause ∧
      (inquiry side).aggregator.quote (inquiry side).pair = .error cause := by
  cases outcome with
  | ok quotes =>
    obtain ⟨x, y⟩ := quotes
    obtain ⟨hfirst, hsecond⟩ := outcome?_eq_ok_iff.1 h
    exact .inl ⟨x, y, rfl, hsound.quote_eq hfirst, hsound.quote_eq hsecond⟩
  | error cause =>
    obtain ⟨side, hside⟩ := quote?_of_outcome?_error h
    exact .inr ⟨cause, side, rfl, hsound.quote_eq hside⟩

/-- Two lookups bring both prices if both bring one, and otherwise none. -/
theorem Sound.toOption_outcome (hsound : race.Sound inquiry now)
    {outcome : Except NoQuote (Double × Double)} (h : race.outcome? = some outcome) :
    outcome.toOption = bothPrices? ((inquiry .first).aggregator.quote (inquiry .first).pair)
      ((inquiry .second).aggregator.quote (inquiry .second).pair) := by
  rcases hsound.outcome h with ⟨x, y, rfl, hfirst, hsecond⟩ | ⟨cause, side, rfl, hquote⟩
  · rw [hfirst, hsecond]
    rfl
  · exact (bothPrices?_of_error
      (fun side => (inquiry side).aggregator.quote (inquiry side).pair) hquote).symm

/-! ### Who is asked -/

/-- Have the sources of every lookup that is begun been asked? -/
def HasAsked (race : Race) : Prop :=
  ∀ side round, race.rounds side = some round → .asked side ∈ race.events

theorem hasAsked_start (inquiry : Side → Inquiry) (now : Nat) :
    HasAsked { inquiry, clock := now } := by
  intro side round hround
  cases hround

namespace HasAsked

theorem put (hasked : race.HasAsked) {side : Side} {round : Round} {events : List RaceEvent}
    (hside : .asked side ∈ race.events ++ events) : (race.put side round events).HasAsked := by
  intro other otherRound hother
  simp only [Race.put] at hother
  split at hother
  next hsame => rwa [hsame]
  next => exact List.mem_append_left _ (hasked other otherRound hother)

theorem turn (hasked : race.HasAsked) {turn : RaceTurn} (h : race.turn turn = some next) :
    next.HasAsked := by
  obtain rfl | ⟨-, hstep⟩ := turn_cases h
  · exact hasked
  · cases turn with
    | ask side =>
      obtain ⟨-, rfl⟩ | ⟨-, round, -, rfl⟩ := ask_cases hstep
      · exact hasked
      · exact hasked.put (List.mem_append_right _ List.mem_cons_self)
    | look side index =>
      obtain rfl := Option.some.inj hstep
      obtain ⟨-, hsame⟩ | ⟨round, hround, -, hnext⟩ := look_cases race side index
      · rwa [hsame]
      · rw [hnext]
        exact hasked.put (List.mem_append_left _ (hasked side round hround))
    | wait time =>
      obtain rfl := Option.some.inj hstep
      obtain hsame | ⟨first, second, -, -, hnext⟩ := wait_cases race time
      · rwa [hsame]
      · rw [hnext]
        intro side round hround
        obtain ⟨before, hbefore, -⟩ := Option.map_eq_some_iff.1 hround
        exact hasked side before hbefore

theorem run (hasked : race.HasAsked) {turns : List RaceTurn} (h : race.run turns = some next) :
    next.HasAsked :=
  run_induction HasAsked (fun hasked => hasked.turn) hasked h

/-- The sources of a lookup that brings a quote or fails have been asked. -/
theorem of_quote? (hasked : race.HasAsked) {side : Side} {quote : Except NoQuote Double}
    (h : race.quote? side = some quote) : .asked side ∈ race.events := by
  obtain ⟨round, hround, -⟩ := Option.bind_eq_some_iff.1 h
  exact hasked side round hround

end HasAsked

/-! ### The end of two lookups -/

theorem turn_of_isSome_outcome? (h : race.outcome?.isSome = true) (turn : RaceTurn) :
    race.turn turn = some race := by
  rw [Race.turn, if_pos h]

theorem turn_eq_step (h : race.outcome? = none) (turn : RaceTurn) :
    race.turn turn = race.step turn := by
  rw [Race.turn, h]
  rfl

theorem run_of_isSome_outcome? (h : race.outcome?.isSome = true) (turns : List RaceTurn) :
    race.run turns = some race := by
  induction turns with
  | nil => rfl
  | cons turn turns ih => exact Option.bind_eq_some_iff.2 ⟨race, turn_of_isSome_outcome? h turn, ih⟩

/-- Nothing was decided before as long as nothing is. -/
theorem outcome?_eq_none_of_run {turns : List RaceTurn} (h : race.run turns = some next)
    (hopen : next.outcome? = none) : race.outcome? = none := by
  by_contra hdecided
  have hsome : race.outcome?.isSome = true := Option.isSome_iff_ne_none.2 hdecided
  obtain rfl := Option.some.inj ((run_of_isSome_outcome? hsome turns).symm.trans h)
  exact hdecided hopen

theorem run_append_eq_some_iff {before after : List RaceTurn} :
    race.run (before ++ after) = some next ↔
      ∃ middle, race.run before = some middle ∧ middle.run after = some next := by
  rw [run, List.foldlM_append]
  exact Option.bind_eq_some_iff

theorem rounds_put_self (race : Race) (side : Side) (round : Round) (events : List RaceEvent) :
    (race.put side round events).rounds side = some round :=
  if_pos rfl

theorem rounds_put_of_ne {side other : Side} (hne : other ≠ side) (round : Round)
    (events : List RaceEvent) : (race.put side round events).rounds other = race.rounds other :=
  if_neg hne

/-- In a turn, a lookup that is begun takes a turn of its own or none. -/
theorem rounds_turn {turn : RaceTurn} (h : race.turn turn = some next)
    (hopen : race.outcome? = none) {side : Side} {round : Round}
    (hround : race.rounds side = some round) :
    ∃ turns, next.rounds side = some (round.run turns) ∧
      ∀ index, turn = .look side index → round.isOver = false → .look index ∈ turns := by
  rw [turn_eq_step hopen] at h
  cases turn with
  | ask other =>
    refine ⟨[], ?_, by simp⟩
    obtain ⟨-, rfl⟩ | ⟨hnone, begun, -, rfl⟩ := ask_cases h
    · exact hround
    · have hne : side ≠ other := by
        rintro rfl
        simp [hround] at hnone
      rwa [rounds_put_of_ne hne]
  | look other index =>
    obtain rfl := Option.some.inj h
    obtain ⟨hover, hsame⟩ | ⟨looked, hlooked, -, hnext⟩ := look_cases race other index
    · refine ⟨[], by rwa [hsame], ?_⟩
      rintro _ ⟨⟩ hnotOver
      rw [hover round hround] at hnotOver
      cases hnotOver
    · rw [hnext]
      by_cases hside : side = other
      · subst hside
        obtain rfl := Option.some.inj (hround.symm.trans hlooked)
        refine ⟨[.look index], rounds_put_self .., ?_⟩
        rintro _ ⟨⟩ _
        exact List.mem_singleton.2 rfl
      · refine ⟨[], by rwa [rounds_put_of_ne hside], ?_⟩
        rintro _ ⟨⟩
        exact absurd rfl hside
  | wait time =>
    obtain rfl := Option.some.inj h
    obtain hsame | ⟨first, second, -, -, hnext⟩ := wait_cases race time
    · exact ⟨[], by rwa [hsame], by simp⟩
    · refine ⟨[.wait (first.nextWake (second.nextWake (race.clock + time)) - race.clock)], ?_,
        by simp⟩
      rw [hnext]
      dsimp only
      rw [hround]
      rfl

/-- So it does in any number of turns, and among its own turns are all looks at its sources. -/
theorem rounds_run {turns : List RaceTurn} (h : race.run turns = some next)
    (hopen : next.outcome? = none) {side : Side} {round : Round}
    (hround : race.rounds side = some round) :
    ∃ roundTurns, next.rounds side = some (round.run roundTurns) ∧
      ((round.run roundTurns).isOver = false → ∀ index,
        .look side index ∈ turns → .look index ∈ roundTurns) := by
  induction turns generalizing race round with
  | nil =>
    obtain rfl := Option.some.inj h
    exact ⟨[], hround, by simp⟩
  | cons turn turns ih =>
    have hundecided := outcome?_eq_none_of_run h hopen
    obtain ⟨middle, hmiddle, hrest⟩ := Option.bind_eq_some_iff.1 h
    obtain ⟨one, hone, honeLook⟩ := rounds_turn hmiddle hundecided hround
    obtain ⟨later, hlater, hlaterLook⟩ := ih hrest hone
    rw [← Round.run_append] at hlater hlaterLook
    refine ⟨one ++ later, hlater, fun hnotOver index hlook => ?_⟩
    rcases List.mem_cons.1 hlook with hnow | hlook
    · rw [Round.run_append] at hnotOver
      have hbefore := Round.isOver_eq_false_of_run (Round.isOver_eq_false_of_run hnotOver)
      exact List.mem_append_left later (honeLook index hnow.symm hbefore)
    · exact List.mem_append_right one (hlaterLook hnotOver index hlook)

/-- A lookup that was asked for is begun. -/
theorem isSome_rounds_of_ask {turns : List RaceTurn} (h : race.run turns = some next)
    (hopen : next.outcome? = none) {side : Side} (hask : .ask side ∈ turns) :
    ∃ round, next.rounds side = some round := by
  induction turns generalizing race with
  | nil => cases hask
  | cons turn turns ih =>
    have hundecided := outcome?_eq_none_of_run h hopen
    obtain ⟨middle, hmiddle, hrest⟩ := Option.bind_eq_some_iff.1 h
    rcases List.mem_cons.1 hask with rfl | hask
    · obtain ⟨round, hround⟩ : ∃ round, middle.rounds side = some round := by
        rw [turn_eq_step hundecided] at hmiddle
        obtain ⟨hbegun, rfl⟩ | ⟨-, round, -, rfl⟩ := ask_cases hmiddle
        · exact hbegun
        · exact ⟨round, rounds_put_self ..⟩
      obtain ⟨roundTurns, hlater, -⟩ := rounds_run hrest hopen hround
      exact ⟨_, hlater⟩
    · exact ih hrest hask

/-- Two lookups only stop short of a decision where there is no deadline for them. -/
theorem exists_run (hsound : race.Sound inquiry now)
    (hdeadline : ∀ side, now + (inquiry side).aggregator.timeout < Aggregator.clockEnd)
    (turns : List RaceTurn) : ∃ next, race.run turns = some next := by
  induction turns generalizing race with
  | nil => exact ⟨race, rfl⟩
  | cons turn turns ih =>
    obtain ⟨middle, hmiddle⟩ : ∃ middle, race.turn turn = some middle := by
      unfold Race.turn
      split
      next => exact ⟨race, rfl⟩
      next =>
        cases turn with
        | ask side =>
          rw [step, Race.ask]
          split
          next => exact ⟨race, rfl⟩
          next hnone =>
            rw [hsound.inquiry_eq, hsound.clock_eq_now side hnone, Aggregator.round?,
              Aggregator.deadline?, if_pos (hdeadline side)]
            exact ⟨_, rfl⟩
        | look side index => exact ⟨_, rfl⟩
        | wait time => exact ⟨_, rfl⟩
    obtain ⟨next, hnext⟩ := ih (hsound.turn hmiddle)
    exact ⟨next, Option.bind_eq_some_iff.2 ⟨middle, hmiddle, hnext⟩⟩

end Race

/-- Turns that ask for both lookups and look at every one of their sources, in any order, and then
    let some time go by. -/
def RaceTurn.IsCycle (sources : Side → Nat) (turns : List RaceTurn) : Prop :=
  ∃ moves time, turns = moves ++ [.wait (time + 1)] ∧
    ∀ side, .ask side ∈ moves ∧ ∀ index < sources side, .look side index ∈ moves

namespace Race

variable {race next : Race} {inquiry : Side → Inquiry} {now : Nat}

/-- Only waiting takes time, and only before anything is decided. -/
theorem clock_turn {turn : RaceTurn} (h : race.turn turn = some next) :
    next.clock = race.clock ∨ ∃ time, race.outcome? = none ∧ race.wait time = next := by
  obtain rfl | ⟨hundecided, hstep⟩ := turn_cases h
  · exact .inl rfl
  · cases turn with
    | ask side =>
      obtain ⟨-, rfl⟩ | ⟨-, round, -, rfl⟩ := ask_cases hstep <;> exact .inl rfl
    | look side index =>
      obtain rfl := Option.some.inj hstep
      obtain ⟨-, hsame⟩ | ⟨round, -, -, hnext⟩ := look_cases race side index
      · exact .inl (by rw [hsame])
      · exact .inl (by rw [hnext]; rfl)
    | wait time => exact .inr ⟨time, hundecided, Option.some.inj hstep⟩

namespace Sound

theorem clock_le_wait (hsound : race.Sound inquiry now) (time : Nat) :
    race.clock ≤ (race.wait time).clock := by
  obtain hsame | ⟨first, second, hfirst, hsecond, hnext⟩ := wait_cases race time
  · exact Nat.le_of_eq (congrArg clock hsame.symm)
  · rw [hnext]
    exact (le_moment_iff hfirst hsecond).2
      ⟨Nat.le_add_right race.clock time, fun side round hround source => hsound.clock_le_due hround⟩

theorem clock_le_turn (hsound : race.Sound inquiry now) {turn : RaceTurn}
    (h : race.turn turn = some next) : race.clock ≤ next.clock := by
  rcases clock_turn h with hclock | ⟨time, -, rfl⟩
  · exact Nat.le_of_eq hclock.symm
  · exact hsound.clock_le_wait time

theorem clock_le_run (hsound : race.Sound inquiry now) {turns : List RaceTurn}
    (h : race.run turns = some next) : race.clock ≤ next.clock := by
  refine (run_induction (fun later => later.Sound inquiry now ∧ race.clock ≤ later.clock) ?_
    ⟨hsound, Nat.le_refl race.clock⟩ h).2
  rintro middle turn later ⟨hmiddle, hclock⟩ hturn
  exact ⟨hmiddle.turn hturn, Nat.le_trans hclock (hmiddle.clock_le_turn hturn)⟩

/-- As long as nothing is decided, the clock has not passed the end of both lookups. -/
theorem clock_le_of_outcome?_eq_none (hsound : race.Sound inquiry now) {bound : Nat}
    (hbound : ∀ side, (inquiry side).aggregator.duration (inquiry side).pair ≤ bound)
    (hopen : race.outcome? = none) : race.clock ≤ now + bound := by
  obtain ⟨side, hside⟩ := (outcome?_eq_none_iff.1 hopen).1
  cases hround : race.rounds side with
  | none =>
    have hclock := hsound.clock_eq_now side hround
    omega
  | some round =>
    have hroundSound := hsound.round_sound side round hround
    rw [quote?, hround, Option.bind_some, hroundSound.quote?_eq] at hside
    cases hover : round.isOver with
    | true => simp [hover] at hside
    | false =>
      have hclock := hroundSound.clock_le_finish
      have hduration := hbound side
      rw [hsound.clock_eq side round hround hover] at hclock
      omega

/-- Nor does it pass that end while somebody waits. -/
theorem clock_wait_le (hsound : race.Sound inquiry now) {bound : Nat}
    (hbound : ∀ side, (inquiry side).aggregator.duration (inquiry side).pair ≤ bound)
    (hopen : race.outcome? = none) (time : Nat) : (race.wait time).clock ≤ now + bound := by
  obtain hsame | ⟨first, second, hfirst, hsecond, hnext⟩ := wait_cases race time
  · rw [hsame]
    exact hsound.clock_le_of_outcome?_eq_none hbound hopen
  · rw [hnext]
    obtain ⟨-, hdue⟩ := (le_moment_iff hfirst hsecond).1
      (Nat.le_refl (first.nextWake (second.nextWake (race.clock + time))))
    obtain ⟨side, hside⟩ := (outcome?_eq_none_iff.1 hopen).1
    obtain ⟨round, hround⟩ : ∃ round, race.rounds side = some round := by
      cases side with
      | first => exact ⟨first, hfirst⟩
      | second => exact ⟨second, hsecond⟩
    have hroundSound := hsound.round_sound side round hround
    -- A lookup that is not over waits for a source, and the clock stops there.
    obtain ⟨question, hquestion, hquestionOpen⟩ :
        ∃ question ∈ round.questions, question.isOpen = true := by
      rw [quote?, hround, Option.bind_some, hroundSound.quote?_eq] at hside
      simpa using mt Round.isOver_iff.2 (by simpa using hside)
    have hwaited := Round.mem_waitedFor.2 ⟨question, hquestion, hquestionOpen, rfl⟩
    have hwake := hdue side round hround question.source hwaited
    have hfinish := hroundSound.due_le_finish hquestion
    have hduration := hbound side
    dsimp only
    omega

/-- At no time has the clock passed the end of both lookups. -/
theorem clock_le_finish_of_run (hsound : race.Sound inquiry now) {bound : Nat}
    (hbound : ∀ side, (inquiry side).aggregator.duration (inquiry side).pair ≤ bound)
    (hclock : race.clock ≤ now + bound) {turns : List RaceTurn} (h : race.run turns = some next) :
    next.clock ≤ now + bound := by
  refine (run_induction (fun later => later.Sound inquiry now ∧ later.clock ≤ now + bound) ?_
    ⟨hsound, hclock⟩ h).2
  rintro middle turn later ⟨hmiddle, hclock⟩ hturn
  refine ⟨hmiddle.turn hturn, ?_⟩
  rcases clock_turn hturn with hsame | ⟨time, hopen, rfl⟩
  · rwa [hsame]
  · exact hmiddle.clock_wait_le hbound hopen time

/-- A source that is waited for although it was looked at is due later than the looks began. -/
theorem clock_lt_due_of_looks (hsound : race.Sound inquiry now) {turns : List RaceTurn}
    (h : race.run turns = some next) (hopen : next.outcome? = none) {side : Side}
    {before after : Round} (hbefore : race.rounds side = some before)
    (hafter : next.rounds side = some after)
    (hlooks : ∀ index < (inquiry side).aggregator.sources.length, .look side index ∈ turns)
    {question : Question} (hquestion : question ∈ after.questions)
    (hquestionOpen : question.isOpen = true) : race.clock < after.due question.source := by
  obtain ⟨index, hindex⟩ := List.getElem?_of_mem hquestion
  obtain ⟨hinside, -⟩ := List.getElem?_eq_some_iff.1 hindex
  obtain ⟨roundTurns, hlater, hlooked⟩ := rounds_run h hopen hbefore
  obtain rfl := Option.some.inj (hlater.symm.trans hafter)
  have hnotOver := Round.isOver_eq_false_of_isOpen hquestion hquestionOpen
  have hbeforeSound := hsound.round_sound side before hbefore
  have hlength : (before.run roundTurns).questions.length =
      (inquiry side).aggregator.sources.length := by
    rw [← (hbeforeSound.run roundTurns).sources_eq, List.length_map]
  have hlook := hlooked hnotOver index (hlooks index (by omega))
  rw [Round.run_due, ← hsound.clock_eq side before hbefore (Round.isOver_eq_false_of_run hnotOver)]
  exact hbeforeSound.clock_lt_due_of_look hlook hindex hquestionOpen

/-- Time moves in a cycle in which nothing is decided, once both lookups are begun. -/
theorem clock_lt_cycle (hsound : race.Sound inquiry now)
    (hbegun : ∀ side, ∃ round, race.rounds side = some round) {turns : List RaceTurn}
    (hcycle : RaceTurn.IsCycle (fun side => (inquiry side).aggregator.sources.length) turns)
    (h : race.run turns = some next) (hopen : next.outcome? = none) : race.clock < next.clock := by
  obtain ⟨moves, time, rfl, hmoves⟩ := hcycle
  obtain ⟨middle, hmiddle, hwait⟩ := run_append_eq_some_iff.1 h
  have hundecided : middle.outcome? = none := outcome?_eq_none_of_run hwait hopen
  obtain rfl : middle.wait (time + 1) = next := by
    obtain ⟨last, hlast, hnext⟩ := Option.bind_eq_some_iff.1 hwait
    rw [turn_eq_step hundecided] at hlast
    rw [Option.some.inj hlast]
    exact Option.some.inj hnext
  have hmiddleRounds : ∀ side, ∃ round, middle.rounds side = some round := by
    intro side
    obtain ⟨round, hround⟩ := hbegun side
    obtain ⟨roundTurns, hlater, -⟩ := rounds_run hmiddle hundecided hround
    exact ⟨_, hlater⟩
  obtain ⟨first, hfirst⟩ := hmiddleRounds .first
  obtain ⟨second, hsecond⟩ := hmiddleRounds .second
  rw [wait_eq_of_rounds hfirst hsecond]
  refine (le_moment_iff hfirst hsecond).2 ⟨?_, ?_⟩
  · have hclock := hsound.clock_le_run hmiddle
    omega
  · intro side round hround source hsource
    obtain ⟨question, hquestion, hquestionOpen, rfl⟩ := Round.mem_waitedFor.1 hsource
    obtain ⟨before, hbefore⟩ := hbegun side
    exact hsound.clock_lt_due_of_looks hmiddle hundecided hbefore hround
      (hmoves side).2 hquestion hquestionOpen

/-- Once both lookups are begun, something is decided after as many cycles as they take moments, and
    one more. -/
theorem isSome_outcome?_of_begun (hsound : race.Sound inquiry now) {bound : Nat}
    (hbound : ∀ side, (inquiry side).aggregator.duration (inquiry side).pair ≤ bound)
    (hbegun : ∀ side, ∃ round, race.rounds side = some round) {cycles : List (List RaceTurn)}
    (hcycles : ∀ turns ∈ cycles,
      RaceTurn.IsCycle (fun side => (inquiry side).aggregator.sources.length) turns)
    (hlong : now + bound < race.clock + cycles.length) (h : race.run cycles.flatten = some next) :
    next.outcome?.isSome = true := by
  -- Every cycle that decides nothing uses up one of the moments that are left.
  induction cycles generalizing race with
  | nil =>
    obtain rfl := Option.some.inj h
    by_contra hopen
    have hclock :=
      hsound.clock_le_of_outcome?_eq_none hbound (Option.not_isSome_iff_eq_none.1 hopen)
    simp only [List.length_nil] at hlong
    omega
  | cons turns cycles ih =>
    obtain ⟨middle, hmiddle, hrest⟩ := run_append_eq_some_iff.1 h
    cases hopen : middle.outcome? with
    | some outcome =>
      obtain rfl :=
        Option.some.inj ((run_of_isSome_outcome? (by rw [hopen]; rfl) _).symm.trans hrest)
      rw [hopen]
      rfl
    | none =>
      have hclock := hsound.clock_lt_cycle hbegun (hcycles turns List.mem_cons_self) hmiddle hopen
      refine ih (hsound.run hmiddle) ?_
        (fun later hlater => hcycles later (List.mem_cons_of_mem turns hlater)) ?_ hrest
      · intro side
        obtain ⟨round, hround⟩ := hbegun side
        obtain ⟨roundTurns, hlater, -⟩ := rounds_run hmiddle hopen hround
        exact ⟨_, hlater⟩
      · rw [List.length_cons] at hlong
        omega

end Sound

/-- Two lookups are decided after one cycle more, in which they are begun. -/
theorem isSome_outcome?_of_cycles {bound : Nat}
    (hbound : ∀ side, (inquiry side).aggregator.duration (inquiry side).pair ≤ bound)
    {cycles : List (List RaceTurn)}
    (hcycles : ∀ turns ∈ cycles,
      RaceTurn.IsCycle (fun side => (inquiry side).aggregator.sources.length) turns)
    (hlong : bound + 1 < cycles.length)
    (h : run { inquiry, clock := now } cycles.flatten = some next) :
    next.outcome?.isSome = true := by
  cases cycles with
  | nil => simp at hlong
  | cons turns cycles =>
    obtain ⟨middle, hmiddle, hrest⟩ := run_append_eq_some_iff.1 h
    have hsound := (sound_start inquiry now).run hmiddle
    have hclock : now ≤ middle.clock := (sound_start inquiry now).clock_le_run hmiddle
    cases hopen : middle.outcome? with
    | some outcome =>
      obtain rfl :=
        Option.some.inj ((run_of_isSome_outcome? (by rw [hopen]; rfl) _).symm.trans hrest)
      rw [hopen]
      rfl
    | none =>
      refine hsound.isSome_outcome?_of_begun hbound ?_
        (fun later hlater => hcycles later (List.mem_cons_of_mem turns hlater)) ?_ hrest
      · intro side
        obtain ⟨moves, time, rfl, hmoves⟩ := hcycles turns List.mem_cons_self
        exact isSome_rounds_of_ask hmiddle hopen (List.mem_append_left _ (hmoves side).1)
      · rw [List.length_cons] at hlong
        omega

end Race
end FeeOracle
