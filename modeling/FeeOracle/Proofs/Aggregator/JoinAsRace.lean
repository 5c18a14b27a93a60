import FeeOracle.Proofs.Aggregator.Join

/-!
# Joins as races

A join is one of the ways in which two lookups go: whoever looks at all sources of both at the times
of the join notices, asks and writes the same (`Aggregator.exists_race_of_join`). What has been
noticed is kept in step with the race (`Race.Mirrors`), look by look, and both lookups are woken
together at the next time of the join, because no source that was looked at in vain is done with any
earlier (`Race.Mirrors.wait`).
-/

namespace FeeOracle

variable {time : Nat}

/-! ### The times of a join -/

theorem mem_insertTime {moment : Nat} {times : List Nat} :
    moment ∈ insertTime time times ↔ moment = time ∨ moment ∈ times := by
  induction times with
  | nil => simp [insertTime]
  | cons other rest ih =>
    unfold insertTime
    split
    next => simp
    next =>
      split
      next heq => simp [heq]
      next => simp [ih, or_left_comm]

theorem pairwise_insertTime {times : List Nat} (h : times.Pairwise (· < ·)) :
    (insertTime time times).Pairwise (· < ·) := by
  induction times with
  | nil => simp [insertTime]
  | cons other rest ih =>
    obtain ⟨hother, hrest⟩ := List.pairwise_cons.1 h
    unfold insertTime
    split
    next hlt =>
      refine List.pairwise_cons.2 ⟨fun moment hmoment => ?_, h⟩
      rcases List.mem_cons.1 hmoment with rfl | hmoment
      · exact hlt
      · exact Nat.lt_trans hlt (hother moment hmoment)
    next hle =>
      split
      next => exact h
      next hne =>
        refine List.pairwise_cons.2 ⟨fun moment hmoment => ?_, ih hrest⟩
        rcases mem_insertTime.1 hmoment with rfl | hmoment
        · omega
        · exact hother moment hmoment

/-- The times after the start are ascending, and they are those at which a source is done with. -/
theorem foldr_insertTime (wakes : List Nat) :
    (wakes.foldr insertTime []).Pairwise (· < ·) ∧ ∀ moment,
      moment ∈ wakes.foldr insertTime [] ↔ moment ∈ wakes := by
  induction wakes with
  | nil => simp
  | cons wake wakes ih =>
    refine ⟨pairwise_insertTime ih.1, fun moment => ?_⟩
    rw [List.foldr_cons, mem_insertTime, ih.2, List.mem_cons]

/-! ### Looking at all sources of a lookup -/

/-- The lookup that is begun in an event. -/
def RaceEvent.asked? : RaceEvent → Option Side
  | .asked side => some side
  | .lookedUp _ _ => none

/-- The warnings that are written in an event. -/
def RaceEvent.warnings : RaceEvent → List LogLine
  | .asked _ => []
  | .lookedUp _ warnings => warnings

theorem Round.isOver_turn_wait (round : Round) (time : Nat) :
    (round.turn (.wait time)).isOver = round.isOver := by
  rw [turn]
  split <;> rfl

namespace Race

variable {race next : Race} {inquiry : Side → Inquiry} {now : Nat} {side : Side} {round : Round}

theorem endEvents_of_not_isOver (h : round.isOver = false) : round.endEvents side = [] := by
  simp [Round.endEvents, Round.readings?, h]

/-- What looks at one lookup come to: they leave the other one alone and take no time, and if they
    see the lookup to its end, its warnings are written. -/
structure LooksTo (race next : Race) (side : Side) (round last : Round) : Prop where
  clock_eq : next.clock = race.clock
  rounds_eq : next.rounds side = some last
  rounds_other : ∀ other, other ≠ side → next.rounds other = race.rounds other
  last_eq : round.isOver = true → last = round
  events_eq : next.events = race.events ++ if round.isOver then [] else last.endEvents side

theorem LooksTo.refl (hround : race.rounds side = some round) :
    race.LooksTo race side round round where
  clock_eq := rfl
  rounds_eq := hround
  rounds_other := fun _ _ => rfl
  last_eq := fun _ => rfl
  events_eq := by
    cases hover : round.isOver with
    | true => simp
    | false => simp [endEvents_of_not_isOver hover]

theorem LooksTo.trans {middle : Race} {between last : Round}
    (h : race.LooksTo middle side round between) (h' : middle.LooksTo next side between last) :
    race.LooksTo next side round last where
  clock_eq := h'.clock_eq.trans h.clock_eq
  rounds_eq := h'.rounds_eq
  rounds_other := fun other hother =>
    (h'.rounds_other other hother).trans (h.rounds_other other hother)
  last_eq := by
    intro hover
    obtain rfl := h.last_eq hover
    exact h'.last_eq hover
  events_eq := by
    rw [h'.events_eq, h.events_eq]
    cases hover : round.isOver with
    | true =>
      obtain rfl := h.last_eq hover
      simp [hover]
    | false =>
      cases hbetween : between.isOver with
      | true =>
        obtain rfl := h'.last_eq hbetween
        simp
      | false => simp [endEvents_of_not_isOver hbetween]

theorem exists_turn_look (hround : race.rounds side = some round) (index : Nat) :
    ∃ next last, race.turn (.look side index) = some next ∧ race.LooksTo next side round last := by
  cases hdecided : race.outcome? with
  | some outcome =>
    exact ⟨race, round, turn_of_isSome_outcome? (by rw [hdecided]; rfl) _, .refl hround⟩
  | none =>
    rw [turn_eq_step hdecided, step]
    obtain ⟨-, hsame⟩ | ⟨looked, hlooked, hnotOver, hnext⟩ := look_cases race side index
    · rw [hsame]
      exact ⟨race, round, rfl, .refl hround⟩
    · obtain rfl := Option.some.inj (hround.symm.trans hlooked)
      rw [hnext]
      exact ⟨_, round.turn (.look index), rfl, {
        clock_eq := rfl
        rounds_eq := rounds_put_self ..
        rounds_other := fun other hother => rounds_put_of_ne hother ..
        last_eq := by simp [hnotOver]
        events_eq := by simp [hnotOver, put] }⟩

theorem exists_run_looks (hround : race.rounds side = some round) (indices : List Nat) :
    ∃ next last,
      race.run (indices.map (.look side)) = some next ∧ race.LooksTo next side round last := by
  induction indices generalizing race round with
  | nil => exact ⟨race, round, rfl, .refl hround⟩
  | cons index indices ih =>
    obtain ⟨middle, between, hturn, hmiddle⟩ := exists_turn_look hround index
    obtain ⟨next, last, hrun, hnext⟩ := ih hmiddle.rounds_eq
    exact ⟨next, last, Option.bind_eq_some_iff.2 ⟨middle, hturn, hrun⟩, hmiddle.trans hnext⟩

/-- Have all sources of a lookup been looked at that are due? -/
def IsSeen (race : Race) (side : Side) : Prop :=
  ∀ round, race.rounds side = some round → ∀ question ∈ round.questions, question.isOpen = true →
    race.clock < round.due question.source

/-- There is nothing left to look at in a lookup that is over. -/
theorem isSeen_of_isOver (hround : race.rounds side = some round) (hover : round.isOver = true) :
    race.IsSeen side := by
  intro last hlast question hquestion hopen
  obtain rfl := Option.some.inj (hround.symm.trans hlast)
  rw [Round.isOver_eq_false_of_isOpen hquestion hopen] at hover
  cases hover

/-- A lookup whose sources have been looked at is over if and only if it has taken its time. -/
theorem Sound.isOver_iff_of_isSeen (hsound : race.Sound inquiry now)
    (hround : race.rounds side = some round) (hseen : race.IsSeen side) :
    round.isOver = true ↔ now + (inquiry side).aggregator.duration (inquiry side).pair ≤
      race.clock := by
  have hroundSound := hsound.round_sound side round hround
  constructor
  · intro hover
    rw [← hroundSound.clock_eq hover]
    exact hsound.clock_le side round hround
  · intro hlate
    rw [Round.isOver_iff]
    intro question hquestion
    by_contra hopen
    have hdue := hseen round hround question hquestion (by simpa using hopen)
    have hfinish := hroundSound.due_le_finish hquestion
    omega

/-- What happens to one lookup decides nothing as long as that lookup is not over. -/
theorem outcome?_eq_none_of_rounds (hopen : race.outcome? = none) (hside : next.quote? side = none)
    (hother : ∀ other, other ≠ side → next.rounds other = race.rounds other) :
    next.outcome? = none := by
  refine outcome?_eq_none_iff.2 ⟨⟨side, hside⟩, fun other cause hcause => ?_⟩
  by_cases hsame : other = side
  · rw [hsame, hside] at hcause
    cases hcause
  · rw [quote?, hother other hsame] at hcause
    exact (outcome?_eq_none_iff.1 hopen).2 other cause hcause

/-- Looks at all sources of a lookup see those that are due. -/
theorem exists_looks (hsound : race.Sound inquiry now) (hopen : race.outcome? = none)
    (hround : race.rounds side = some round) :
    ∃ turns next last,
      race.run turns = some next ∧ race.LooksTo next side round last ∧ next.IsSeen side := by
  obtain ⟨next, last, hrun, hlooks⟩ :=
    exists_run_looks hround (List.range (inquiry side).aggregator.sources.length)
  refine ⟨_, next, last, hrun, hlooks, ?_⟩
  intro seen hlast question hquestion hquestionOpen
  obtain rfl := Option.some.inj (hlooks.rounds_eq.symm.trans hlast)
  have hnotOver := Round.isOver_eq_false_of_isOpen hquestion hquestionOpen
  have hlastQuote : next.quote? side = none := by
    rw [quote?, hlooks.rounds_eq, Option.bind_some, Round.quote?_eq_none hnotOver]
  have hundecided : next.outcome? = none :=
    outcome?_eq_none_of_rounds hopen hlastQuote hlooks.rounds_other
  rw [hlooks.clock_eq]
  exact hsound.clock_lt_due_of_looks hrun hundecided hround hlooks.rounds_eq
    (fun index hindex => List.mem_map_of_mem (List.mem_range.2 hindex)) hquestion hquestionOpen

/-- A lookup that is not over can be begun, if it is not begun yet, and all its sources can be
    looked at. -/
theorem exists_visit (hsound : race.Sound inquiry now) (hopen : race.outcome? = none)
    (hside : race.quote? side = none)
    (hdeadline : now + (inquiry side).aggregator.timeout < Aggregator.clockEnd) :
    ∃ turns next last,
      race.run turns = some next ∧ next.clock = race.clock ∧ next.rounds side = some last ∧
      (∀ other, other ≠ side → next.rounds other = race.rounds other) ∧ next.IsSeen side ∧
      next.events =
        race.events ++ (if (race.rounds side).isSome then [] else [.asked side]) ++
          last.endEvents side := by
  cases hround : race.rounds side with
  | some round =>
    have hnotOver : round.isOver = false := by
      rw [quote?, hround, Option.bind_some,
        (hsound.round_sound side round hround).quote?_eq] at hside
      simpa using hside
    obtain ⟨turns, next, last, hrun, hlooks, hseen⟩ := exists_looks hsound hopen hround
    refine ⟨turns, next, last, hrun, hlooks.clock_eq, hlooks.rounds_eq,
      hlooks.rounds_other, hseen, ?_⟩
    simp [hlooks.events_eq, hnotOver]
  | none =>
    obtain ⟨round, hbegun⟩ :
        ∃ round, (inquiry side).aggregator.round? race.clock (inquiry side).pair = some round := by
      rw [hsound.clock_eq_now side hround, Aggregator.round?, Aggregator.deadline?,
        if_pos hdeadline]
      exact ⟨_, rfl⟩
    have hturn : race.turn (.ask side) =
        some (race.put side round (.asked side :: round.endEvents side)) := by
      rw [turn_eq_step hopen, step, Race.ask, hround, hsound.inquiry_eq, hbegun]
      rfl
    have hmiddle := hsound.turn hturn
    have hput :
        (race.put side round (.asked side :: round.endEvents side)).rounds side = some round :=
      rounds_put_self ..
    cases hover : round.isOver with
    | true =>
      -- A lookup without sources is over as soon as it is begun.
      refine ⟨[.ask side], _, round, Option.bind_eq_some_iff.2 ⟨_, hturn, rfl⟩, rfl, hput,
        fun other hother => rounds_put_of_ne hother .., isSeen_of_isOver hput hover, by simp [put]⟩
    | false =>
      have hundecided := outcome?_eq_none_of_rounds hopen
        (show (race.put side round (.asked side :: round.endEvents side)).quote? side = none by
          rw [quote?, hput, Option.bind_some, Round.quote?_eq_none hover])
        fun other hother => rounds_put_of_ne hother ..
      obtain ⟨turns, next, last, hrun, hlooks, hseen⟩ := exists_looks hmiddle hundecided hput
      refine ⟨.ask side :: turns, next, last, Option.bind_eq_some_iff.2 ⟨_, hturn, hrun⟩,
        hlooks.clock_eq, hlooks.rounds_eq, fun other hother => ?_, hseen, ?_⟩
      · rw [hlooks.rounds_other other hother, rounds_put_of_ne hother]
      · simp [hlooks.events_eq, hover, put, endEvents_of_not_isOver hover]

/-! ### What is noticed -/

/-- The lookups as they will go. -/
def pending (inquiry : Side → Inquiry) (side : Side) : Pending :=
  (inquiry side).aggregator.pending (inquiry side).pair

/-- The lookups that were asked for, in order. -/
def asked (race : Race) : List Side := race.events.filterMap RaceEvent.asked?

/-- What was written about the lookups. -/
def warnings (race : Race) : List LogLine := race.events.flatMap RaceEvent.warnings

/-- What is asked for if a lookup is looked at next. -/
def toAsk (race : Race) (side : Side) : List Side :=
  if (race.rounds side).isSome then [] else [side]

/-- What looking at one lookup comes to: it is begun then, the other one is left alone, and no time
    goes by. -/
structure Visits (race next : Race) (side : Side) : Prop where
  clock_eq : next.clock = race.clock
  isSome_rounds : (next.rounds side).isSome = true
  rounds_other : ∀ other, other ≠ side → next.rounds other = race.rounds other
  asked_eq : next.asked = race.asked ++ race.toAsk side

/-- Is the state of two lookups what has been noticed about them? Then no failure has been. -/
structure Mirrors (race : Race) (noticed : Noticed) (inquiry : Side → Inquiry) (now : Nat) :
    Prop where
  sound : race.Sound inquiry now
  done_iff :
    ∀ side, noticed.done side = true ↔ ∃ round, race.rounds side = some round ∧ round.isOver = true
  ok_of_done :
    ∀ side, noticed.done side = true → ∃ price, (pending inquiry side).outcome = .ok price
  written_eq : race.warnings = noticed.written

theorem mirrors_start (inquiry : Side → Inquiry) (now : Nat) :
    Mirrors { inquiry, clock := now } {} inquiry now where
  sound := sound_start inquiry now
  done_iff := by simp
  ok_of_done := by simp
  written_eq := rfl

theorem Visits.isSeen_other {middle : Race} (hvisits : middle.Visits next side.other)
    (hseen : middle.IsSeen side) : next.IsSeen side := by
  intro round hround
  rw [hvisits.rounds_other side (by cases side <;> decide)] at hround
  rw [hvisits.clock_eq]
  exact hseen round hround

theorem Visits.toAsk_other {middle : Race} (hvisits : race.Visits middle side) :
    middle.toAsk side.other = race.toAsk side.other := by
  rw [toAsk, hvisits.rounds_other side.other (by cases side <;> decide), toAsk]

namespace Mirrors

variable {noticed : Noticed}

theorem quote?_eq (hmirrors : race.Mirrors noticed inquiry now) (side : Side) :
    race.quote? side = if noticed.done side then some (pending inquiry side).outcome else none := by
  have hdone := hmirrors.done_iff side
  cases hround : race.rounds side with
  | none =>
    have hnot : noticed.done side = false := by
      rw [← Bool.not_eq_true, hdone]
      simp [hround]
    simp [quote?, hround, hnot]
  | some round =>
    have hsame : noticed.done side = round.isOver := by
      rw [Bool.eq_iff_iff, hdone]
      simp [hround]
    rw [quote?, hround, Option.bind_some,
      (hmirrors.sound.round_sound side round hround).quote?_eq, hsame]
    rfl

theorem outcome?_eq_none (hmirrors : race.Mirrors noticed inquiry now)
    (hside : noticed.done side = false) : race.outcome? = none := by
  refine outcome?_eq_none_iff.2
    ⟨⟨side, by simp [hmirrors.quote?_eq, hside]⟩, fun other cause hcause => ?_⟩
  rw [hmirrors.quote?_eq] at hcause
  split at hcause
  next hdone =>
    obtain ⟨price, hprice⟩ := hmirrors.ok_of_done other hdone
    rw [hprice] at hcause
    cases hcause
  next => cases hcause

/-- Where both lookups are noticed to be done, both quotes are there. -/
theorem outcome?_eq_ok (hmirrors : race.Mirrors noticed inquiry now)
    (hdone : ∀ side, noticed.done side = true) :
    ∃ x y, (pending inquiry .first).outcome = .ok x ∧ (pending inquiry .second).outcome = .ok y ∧
      race.outcome? = some (.ok (x, y)) := by
  obtain ⟨x, hx⟩ := hmirrors.ok_of_done .first (hdone .first)
  obtain ⟨y, hy⟩ := hmirrors.ok_of_done .second (hdone .second)
  refine ⟨x, y, hx, hy, outcome?_eq_ok_iff.2 ⟨?_, ?_⟩⟩
  · rw [hmirrors.quote?_eq, hdone, if_pos rfl, hx]
  · rw [hmirrors.quote?_eq, hdone, if_pos rfl, hy]

/-- Looking at a lookup that is not noticed to be done, all its sources are looked at, and its
    warnings are written if it is over then. -/
theorem exists_visit (hmirrors : race.Mirrors noticed inquiry now)
    (hdone : noticed.done side = false)
    (hdeadline : now + (inquiry side).aggregator.timeout < Aggregator.clockEnd) :
    ∃ turns next last, race.run turns = some next ∧ race.Visits next side ∧ next.IsSeen side ∧
      next.rounds side = some last ∧
      (last.isOver = true ↔ now + (pending inquiry side).finish ≤ race.clock) ∧
      next.warnings = noticed.written ++
        if last.isOver then (pending inquiry side).warnings else [] := by
  obtain ⟨turns, next, last, hrun, hclock, hlast, hothers, hseen, hevents⟩ :=
    Race.exists_visit hmirrors.sound (hmirrors.outcome?_eq_none hdone)
      (by simp [hmirrors.quote?_eq, hdone]) hdeadline
  have hnextSound := hmirrors.sound.run hrun
  have hlastSound := hnextSound.round_sound side last hlast
  refine ⟨turns, next, last, hrun, ⟨hclock, by rw [hlast]; rfl, hothers, ?_⟩, hseen, hlast, ?_, ?_⟩
  · rw [asked, hevents, hlastSound.endEvents_eq, toAsk]
    split <;> split <;> simp [asked, RaceEvent.asked?]
  · rw [hnextSound.isOver_iff_of_isSeen hlast hseen, hclock]
    rfl
  · rw [← hmirrors.written_eq, warnings, hevents, hlastSound.endEvents_eq]
    split <;> split <;> simp [warnings, RaceEvent.warnings, pending, Aggregator.pending]

/-- What is noticed stays as it is if a lookup that was looked at is not over. -/
theorem visit_open (hmirrors : race.Mirrors noticed inquiry now) (hsound : next.Sound inquiry now)
    (hvisits : race.Visits next side) (hround : next.rounds side = some round)
    (hopen : round.isOver = false) (hdone : noticed.done side = false)
    (hwritten : next.warnings = noticed.written) : next.Mirrors noticed inquiry now where
  sound := hsound
  done_iff := by
    intro other
    by_cases hother : other = side
    · subst hother
      simp [hdone, hround, hopen]
    · rw [hmirrors.done_iff, hvisits.rounds_other other hother]
  ok_of_done := hmirrors.ok_of_done
  written_eq := hwritten

/-- A lookup that was looked at, is over and did not fail is noticed to be done. -/
theorem visit_over (hmirrors : race.Mirrors noticed inquiry now) (hsound : next.Sound inquiry now)
    (hvisits : race.Visits next side) (hround : next.rounds side = some round)
    (hover : round.isOver = true) {price : Double}
    (hprice : (pending inquiry side).outcome = .ok price) :
    next.Mirrors
      { done := fun other => other == side || noticed.done other, written := next.warnings }
      inquiry now where
  sound := hsound
  done_iff := by
    intro other
    by_cases hother : other = side
    · subst hother
      simp [hround, hover]
    · simpa [hother, hvisits.rounds_other other hother] using hmirrors.done_iff other
  ok_of_done := by
    intro other hother
    by_cases hsame : other = side
    · exact ⟨price, hsame ▸ hprice⟩
    · exact hmirrors.ok_of_done other (by simpa [hsame] using hother)
  written_eq := rfl

/-- A lookup that was looked at, is over and failed decides. -/
theorem outcome?_of_visit (hmirrors : race.Mirrors noticed inquiry now)
    (hsound : next.Sound inquiry now) (hvisits : race.Visits next side)
    (hround : next.rounds side = some round) (hover : round.isOver = true)
    (hdone : noticed.done side = false) {cause : NoQuote}
    (hcause : (pending inquiry side).outcome = .error cause) :
    next.outcome? = some (.error cause) := by
  have hquote : next.quote? side = some (.error cause) := by
    rw [quote?, hround, Option.bind_some,
      (hsound.round_sound side round hround).quote?_eq, if_pos hover]
    exact congrArg some hcause
  refine outcome?_eq_error hquote fun other hother failure hfailure => ?_
  rw [quote?, hvisits.rounds_other other hother] at hfailure
  exact (outcome?_eq_none_iff.1 (hmirrors.outcome?_eq_none hdone)).2 other failure hfailure

/-- Whoever looks at a lookup notices what comes of looking at all its sources. -/
theorem exists_look (hmirrors : race.Mirrors noticed inquiry now) (side : Side)
    (hdeadline : now + (inquiry side).aggregator.timeout < Aggregator.clockEnd)
    (hclock : noticed.done side = false → race.clock = now + time) :
    ∃ turns next, race.run turns = some next ∧ race.Visits next side ∧
      match noticed.look (pending inquiry) time side with
      | .ok noticed' => next.Mirrors noticed' inquiry now ∧ next.IsSeen side ∧
          ∀ other, noticed'.done other = false → noticed.done other = false
      | .error (cause, written) =>
        next.outcome? = some (.error cause) ∧ next.warnings = written := by
  cases hdone : noticed.done side with
  | true =>
    obtain ⟨round, hround, hover⟩ := (hmirrors.done_iff side).1 hdone
    have hlook : noticed.look (pending inquiry) time side = .ok noticed := if_pos (.inl hdone)
    rw [hlook]
    exact ⟨[], race, rfl,
      ⟨rfl, by rw [hround]; rfl, fun _ _ => rfl, by simp [toAsk, hround]⟩, hmirrors,
      isSeen_of_isOver hround hover, fun _ => id⟩
  | false =>
    obtain ⟨turns, next, last, hrun, hvisits, hseen, hlast, hover, hwritten⟩ :=
      hmirrors.exists_visit hdone hdeadline
    rw [hclock hdone, Nat.add_le_add_iff_left] at hover
    have hsound := hmirrors.sound.run hrun
    refine ⟨turns, next, hrun, hvisits, ?_⟩
    by_cases hearly : time < (pending inquiry side).finish
    · have hopen : last.isOver = false := by
        rw [← Bool.not_eq_true, hover]
        omega
      have hlook : noticed.look (pending inquiry) time side = .ok noticed := if_pos (.inr hearly)
      rw [hlook]
      rw [hopen, if_neg Bool.false_ne_true, List.append_nil] at hwritten
      exact ⟨hmirrors.visit_open hsound hvisits hlast hopen hdone hwritten, hseen, fun _ => id⟩
    · have hlastOver : last.isOver = true := hover.2 (Nat.le_of_not_lt hearly)
      rw [hlastOver, if_pos rfl] at hwritten
      unfold Noticed.look
      rw [if_neg (by simp [hdone, hearly]), ← hwritten]
      cases houtcome : (pending inquiry side).outcome with
      | ok price =>
        exact ⟨hmirrors.visit_over hsound hvisits hlast hlastOver houtcome, hseen,
          fun other hother => (Bool.or_eq_false_iff.1 hother).2⟩
      | error cause =>
        exact ⟨hmirrors.outcome?_of_visit hsound hvisits hlast hlastOver hdone houtcome, rfl⟩

/-- Whoever looks at both lookups notices what comes of looking at all their sources. -/
theorem exists_looks (hmirrors : race.Mirrors noticed inquiry now)
    (hdeadline : ∀ side, now + (inquiry side).aggregator.timeout < Aggregator.clockEnd)
    (hclock : ∀ side, noticed.done side = false → race.clock = now + time) (leader : Side) :
    ∃ turns next, race.run turns = some next ∧
      next.asked = race.asked ++ race.toAsk leader ++
        (if (noticed.look (pending inquiry) time leader).toOption = none then []
          else race.toAsk leader.other) ∧
      match [leader, leader.other].foldlM (Noticed.look (pending inquiry) time) noticed with
      | .ok noticed' => next.Mirrors noticed' inquiry now ∧ next.clock = race.clock ∧
          (∀ side, (next.rounds side).isSome = true ∧ next.IsSeen side) ∧
          ∀ side, noticed'.done side = false → noticed.done side = false
      | .error (cause, written) =>
        next.outcome? = some (.error cause) ∧ next.warnings = written := by
  obtain ⟨turns, middle, hrun, hvisits, hlook⟩ :=
    hmirrors.exists_look leader (hdeadline leader) (hclock leader)
  have hlooks : [leader, leader.other].foldlM (Noticed.look (pending inquiry) time) noticed =
      noticed.look (pending inquiry) time leader >>= fun between =>
        between.look (pending inquiry) time leader.other := by
    simp
  rw [hlooks]
  cases hfirst : noticed.look (pending inquiry) time leader with
  | error failure =>
    rw [hfirst] at hlook
    exact ⟨turns, middle, hrun, by simp [hvisits.asked_eq, Except.toOption], hlook⟩
  | ok between =>
    rw [hfirst] at hlook
    obtain ⟨hmiddle, hmiddleSeen, hmiddleDone⟩ := hlook
    obtain ⟨later, next, hlater, hnextVisits, hnextLook⟩ :=
      hmiddle.exists_look leader.other (hdeadline leader.other) fun hopen =>
        hvisits.clock_eq.trans (hclock leader.other (hmiddleDone leader.other hopen))
    refine ⟨turns ++ later, next, run_append_eq_some_iff.2 ⟨middle, hrun, hlater⟩, ?_, ?_⟩
    · rw [hnextVisits.asked_eq, hvisits.asked_eq, hvisits.toAsk_other]
      simp [Except.toOption]
    · have hsides : ∀ side, side = leader ∨ side = leader.other := by
        intro side
        cases side <;> cases leader <;> decide
      dsimp only [bind, Except.bind]
      cases hsecond : between.look (pending inquiry) time leader.other with
      | error failure =>
        rw [hsecond] at hnextLook
        exact hnextLook
      | ok noticed' =>
        rw [hsecond] at hnextLook
        obtain ⟨hnext, hnextSeen, hnextDone⟩ := hnextLook
        refine ⟨hnext, hnextVisits.clock_eq.trans hvisits.clock_eq, fun side => ?_,
          fun side hopen => hmiddleDone side (hnextDone side hopen)⟩
        rcases hsides side with rfl | rfl
        · refine ⟨?_, hnextVisits.isSeen_other hmiddleSeen⟩
          rw [hnextVisits.rounds_other side (by cases side <;> decide)]
          exact hvisits.isSome_rounds
        · exact ⟨hnextVisits.isSome_rounds, hnextSeen⟩

end Mirrors

/-! ### Waiting -/

/-- A source that is waited for, although it was looked at, responds or times out later than now. -/
theorem Sound.exists_wake (hsound : race.Sound inquiry now) (hround : race.rounds side = some round)
    (hseen : race.IsSeen side) {source : Source} (hsource : source ∈ round.waitedFor) :
    ∃ wake ∈ (pending inquiry side).wakes,
      round.due source = now + wake ∧ race.clock < now + wake := by
  have hroundSound := hsound.round_sound side round hround
  obtain ⟨question, hquestion, hopen, rfl⟩ := Round.mem_waitedFor.1 hsource
  have hdue := hseen round hround question hquestion hopen
  rw [hroundSound.due_eq] at hdue
  refine ⟨_, List.mem_filter.2 ⟨List.mem_map_of_mem ?_, ?_⟩, hroundSound.due_eq _, hdue⟩
  · rw [← hroundSound.sources_eq]
    exact List.mem_map_of_mem hquestion
  · have hnow : now ≤ race.clock :=
      Nat.le_trans hroundSound.now_le_clock (hsound.clock_le side round hround)
    rw [decide_eq_true_eq]
    omega

/-- Both lookups, after all their sources were looked at, are woken together. -/
theorem Mirrors.wait {noticed : Noticed} (hmirrors : race.Mirrors noticed inquiry now)
    (hsides : ∀ side, (race.rounds side).isSome = true ∧ race.IsSeen side) {moment : Nat}
    (hlate : race.clock ≤ now + moment)
    (hwakes : ∀ side,
      ∀ wake ∈ (pending inquiry side).wakes, race.clock < now + wake → moment ≤ wake) :
    (race.wait (now + moment - race.clock)).Mirrors noticed inquiry now ∧
      (race.wait (now + moment - race.clock)).clock = now + moment ∧
      (race.wait (now + moment - race.clock)).events = race.events ∧
      ∀ side, ((race.wait (now + moment - race.clock)).rounds side).isSome = true := by
  have hboth :
      ∃ first second, race.rounds .first = some first ∧ race.rounds .second = some second := by
    obtain ⟨first, hfirst⟩ := Option.isSome_iff_exists.1 (hsides .first).1
    obtain ⟨second, hsecond⟩ := Option.isSome_iff_exists.1 (hsides .second).1
    exact ⟨first, second, hfirst, hsecond⟩
  obtain ⟨first, second, hfirst, hsecond⟩ := hboth
  have hdue : ∀ side round, race.rounds side = some round → ∀ source ∈ round.waitedFor,
      now + moment ≤ round.due source := by
    intro side round hround source hsource
    obtain ⟨wake, hwake, hdue, hlater⟩ := hmirrors.sound.exists_wake hround (hsides side).2 hsource
    have hmoment := hwakes side wake hwake hlater
    omega
  have hnextWake : first.nextWake (second.nextWake (race.clock + (now + moment - race.clock))) =
      now + moment := by
    rw [Nat.add_sub_cancel' hlate, Round.nextWake_eq_self (hdue .second second hsecond),
      Round.nextWake_eq_self (hdue .first first hfirst)]
  have hsound := hmirrors.sound.wait (now + moment - race.clock)
  have hnext := wait_eq_of_rounds hfirst hsecond (now + moment - race.clock)
  rw [hnextWake] at hnext
  rw [hnext] at hsound ⊢
  refine ⟨{ hmirrors with sound := hsound, done_iff := ?_ }, rfl, rfl, ?_⟩
  · intro side
    rw [hmirrors.done_iff]
    simp [Round.isOver_turn_wait]
  · intro side
    exact Option.isSome_map.trans (hsides side).1

/-! ### All looks of a join -/

namespace Mirrors

variable {noticed : Noticed}

/-- Where all sources of both lookups were looked at and none will be done with later, both lookups
    are done. -/
theorem done_of_isSeen (hmirrors : race.Mirrors noticed inquiry now)
    (hsides : ∀ side, (race.rounds side).isSome = true ∧ race.IsSeen side)
    (hclock : ∀ side, noticed.done side = false → race.clock = now + time)
    (hwakes : ∀ side, ∀ wake ∈ (pending inquiry side).wakes, wake ≤ time) (side : Side) :
    noticed.done side = true := by
  by_contra hopen
  obtain ⟨round, hround⟩ := Option.isSome_iff_exists.1 (hsides side).1
  have hnotOver : round.isOver ≠ true :=
    fun hover => hopen ((hmirrors.done_iff side).2 ⟨round, hround, hover⟩)
  obtain ⟨source, hsource⟩ : ∃ source, source ∈ round.waitedFor :=
    List.exists_mem_of_ne_nil _ fun hnil => hnotOver (List.isEmpty_iff.2 hnil)
  obtain ⟨wake, hwake, -, hlater⟩ := hmirrors.sound.exists_wake hround (hsides side).2 hsource
  have hlate := hwakes side wake hwake
  rw [hclock side (by simpa using hopen)] at hlater
  omega

/-- Two lookups whose sources were looked at may go on to the next time of a join, unless both are
    done. -/
theorem exists_wait (hmirrors : race.Mirrors noticed inquiry now)
    (hsides : ∀ side, (race.rounds side).isSome = true ∧ race.IsSeen side)
    (hclock : ∀ side, noticed.done side = false → race.clock = now + time) {moment : Nat}
    (hlater : time ≤ moment)
    (hwakes : ∀ side, ∀ wake ∈ (pending inquiry side).wakes, time < wake → moment ≤ wake) :
    ∃ turns next, race.run turns = some next ∧ next.Mirrors noticed inquiry now ∧
      (∀ side, noticed.done side = false → next.clock = now + moment) ∧ next.events = race.events ∧
      ∀ side, (next.rounds side).isSome = true := by
  by_cases hdone : ∀ side, noticed.done side = true
  · exact ⟨[], race, rfl, hmirrors, by simp [hdone], rfl, fun side => (hsides side).1⟩
  · obtain ⟨side, hside⟩ := not_forall.1 hdone
    rw [Bool.not_eq_true] at hside
    have hnow := hclock side hside
    have hlate : race.clock ≤ now + moment := by omega
    obtain ⟨hnext, hnextClock, hevents, hrounds⟩ :=
      hmirrors.wait hsides hlate fun other wake hwake hlate => hwakes other wake hwake (by omega)
    refine ⟨[.wait (now + moment - race.clock)], _, Option.bind_eq_some_iff.2 ⟨_, ?_, rfl⟩, hnext,
      fun _ _ => hnextClock, hevents, hrounds⟩
    rw [turn_eq_step (hmirrors.outcome?_eq_none hside), step]

/-- Two lookups whose sources were looked at may go on as whoever looks at them at the times of a
    join notices. -/
theorem exists_joinAt {later : List Nat} (hmirrors : race.Mirrors noticed inquiry now)
    (hdeadline : ∀ side, now + (inquiry side).aggregator.timeout < Aggregator.clockEnd)
    (hsides : ∀ side, (race.rounds side).isSome = true ∧ race.IsSeen side)
    (hclock : ∀ side, noticed.done side = false → race.clock = now + time)
    (hlater : (time :: later).Pairwise (· < ·))
    (hwakes : ∀ side, ∀ wake ∈ (pending inquiry side).wakes, time < wake → wake ∈ later)
    (leader : Side) :
    ∃ turns next, race.run turns = some next ∧
      next.outcome? = some (joinAt (pending inquiry) leader noticed later).outcome ∧
      next.warnings = (joinAt (pending inquiry) leader noticed later).warnings ∧
      next.asked = race.asked := by
  induction later generalizing race noticed time leader with
  | nil =>
    have hdone := hmirrors.done_of_isSeen hsides hclock fun side wake hwake => by
      by_contra hlate
      exact List.not_mem_nil (hwakes side wake hwake (Nat.lt_of_not_le hlate))
    obtain ⟨x, y, hx, hy, houtcome⟩ := hmirrors.outcome?_eq_ok hdone
    refine ⟨[], race, rfl, ?_, ?_, rfl⟩
    · rw [houtcome, joinAt, hx, hy]
    · rw [hmirrors.written_eq, joinAt, hx, hy]
  | cons moment later ih =>
    obtain ⟨hmoments, hlater⟩ := List.pairwise_cons.1 hlater
    have hnext : time < moment := hmoments moment List.mem_cons_self
    obtain ⟨waits, woken, hwaits, hwoken, hwokenClock, hwokenEvents, hwokenRounds⟩ :=
      hmirrors.exists_wait hsides hclock (Nat.le_of_lt hnext) fun side wake hwake hlate => by
        rcases List.mem_cons.1 (hwakes side wake hwake hlate) with rfl | hmem
        · exact Nat.le_refl wake
        · exact Nat.le_of_lt ((List.pairwise_cons.1 hlater).1 wake hmem)
    obtain ⟨looks, seen, hlooks, hasked, hseen⟩ := hwoken.exists_looks hdeadline hwokenClock leader
    have hseenAsked : seen.asked = race.asked := by
      simpa [toAsk, hwokenRounds, asked, hwokenEvents] using hasked
    have hrun : race.run (waits ++ looks) = some seen :=
      run_append_eq_some_iff.2 ⟨woken, hwaits, hlooks⟩
    rw [joinAt]
    split
    next cause written hfails =>
      rw [hfails] at hseen
      exact ⟨_, seen, hrun, hseen.1, hseen.2, hseenAsked⟩
    next noticed' hnotices =>
      rw [hnotices] at hseen
      obtain ⟨hseenMirrors, hseenClock, hseenSides, hdone⟩ := hseen
      obtain ⟨turns, next, hturns, houtcome, hwarnings, hnextAsked⟩ := ih hseenMirrors hseenSides
        (fun side hopen => hseenClock.trans (hwokenClock side (hdone side hopen)))
        hlater
        (fun side wake hwake hlate => by
          rcases List.mem_cons.1 (hwakes side wake hwake (Nat.lt_trans hnext hlate)) with rfl | hmem
          · exact absurd hlate (Nat.lt_irrefl wake)
          · exact hmem)
        leader.other
      exact ⟨_, next, run_append_eq_some_iff.2 ⟨seen, hrun, hturns⟩, houtcome, hwarnings,
        hnextAsked.trans hseenAsked⟩

end Mirrors

end Race

theorem pairwise_lookTimes (inquiry : Side → Inquiry) :
    (lookTimes (Race.pending inquiry)).Pairwise (· < ·) := by
  obtain ⟨hpairwise, hmem⟩ :=
    foldr_insertTime ((Race.pending inquiry .first).wakes ++ (Race.pending inquiry .second).wakes)
  refine List.pairwise_cons.2 ⟨fun moment hmoment => ?_, hpairwise⟩
  rcases List.mem_append.1 ((hmem moment).1 hmoment) with hwake | hwake <;>
    exact of_decide_eq_true (List.mem_filter.1 hwake).2

/-- A join is one of the ways in which the two lookups may go: it brings the same, the same is
    written, and the sources are asked for the same pairs. -/
theorem Aggregator.exists_race_of_join {aggregator : Aggregator} {inquiry : Side → Inquiry}
    {now : Nat} (haggregator : ∀ side, (inquiry side).aggregator = aggregator)
    (hdeadline : now + aggregator.timeout < clockEnd) :
    ∃ turns next, Race.run { inquiry, clock := now } turns = some next ∧
      next.outcome? = some (aggregator.join (inquiry .first).pair (inquiry .second).pair).outcome ∧
      next.warnings = (aggregator.join (inquiry .first).pair (inquiry .second).pair).warnings ∧
      next.asked.map (fun side => (inquiry side).pair) =
        aggregator.askedByJoin (inquiry .first).pair (inquiry .second).pair := by
  have hpending : aggregator.pendings (inquiry .first).pair (inquiry .second).pair =
      Race.pending inquiry := by
    funext side
    cases side <;> simp only [pendings, Race.pending, haggregator]
  have hdeadlines : ∀ side, now + (inquiry side).aggregator.timeout < clockEnd := by
    intro side
    rwa [haggregator]
  obtain ⟨looks, seen, hlooks, hasked, hseen⟩ :=
    (Race.mirrors_start inquiry now).exists_looks hdeadlines
    (fun _ _ => rfl : ∀ side, ({} : Noticed).done side = false → _ = now + 0) .first
  have haskedPairs : seen.asked.map (fun side => (inquiry side).pair) =
      aggregator.askedByJoin (inquiry .first).pair (inquiry .second).pair := by
    have hfails : (({} : Noticed).look (Race.pending inquiry) 0 .first).toOption = none ↔
        aggregator.duration (inquiry .first).pair = 0 ∧
        (aggregator.quote (inquiry .first).pair).toOption = none := by
      rw [← hpending]
      exact Noticed.toOption_look_start ..
    rw [hasked, askedByJoin]
    by_cases hatOnce : aggregator.duration (inquiry .first).pair = 0 ∧
        (aggregator.quote (inquiry .first).pair).toOption = none
    · rw [if_pos (hfails.2 hatOnce), if_pos hatOnce]
      rfl
    · rw [if_neg (mt hfails.1 hatOnce), if_neg hatOnce]
      rfl
  rw [join, hpending, lookTimes, joinAt]
  split
  next cause written hfails =>
    rw [hfails] at hseen
    exact ⟨looks, seen, hlooks, hseen.1, hseen.2, haskedPairs⟩
  next noticed hnotices =>
    rw [hnotices] at hseen
    obtain ⟨hmirrors, hclock, hsides, -⟩ := hseen
    have hnow : seen.clock = now + 0 := hclock
    obtain ⟨turns, next, hturns, houtcome, hwarnings, hnextAsked⟩ :=
      hmirrors.exists_joinAt hdeadlines hsides (fun _ _ => hnow) (pairwise_lookTimes inquiry) (by
        intro side wake hwake _
        rw [(foldr_insertTime _).2, List.mem_append]
        cases side with
        | first => exact .inl hwake
        | second => exact .inr hwake) Side.first.other
    exact ⟨_, next, Race.run_append_eq_some_iff.2 ⟨seen, hlooks, hturns⟩, houtcome, hwarnings,
      hnextAsked ▸ haskedPairs⟩

end FeeOracle
