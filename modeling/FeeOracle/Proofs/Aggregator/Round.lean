import FeeOracle.Aggregator.Round
import Mathlib.Data.List.Basic

/-!
# What every round brings

However a round goes, it comes to the answers that count (`readings_eq_of_readingsAfter?`). A source
that is still waited for has not responded or timed out before now, and one that is done with has,
and its answer is the one that counts: that holds when a round begins and every turn keeps it
(`Sound.turn`). A round that goes on comes to its end, because the clock moves whenever every source
was looked at in vain (`isOver_run_cycles`).
-/

namespace FeeOracle

/-- The answer that counts is the outcome of a response in time, with an unusable price rejected. -/
theorem Source.answer_eq (source : Source) (timeout : Nat) (pair : TickerPair) :
    source.answer timeout pair =
      if (source.respond pair).inTime timeout then
        (source.respond pair).outcome.bind (validatePrice source.name)
      else .error (.timeout source.name) := by
  unfold Source.answer
  cases houtcome : (source.respond pair).outcome <;> simp only [houtcome, Except.bind]

namespace Aggregator

private theorem foldl_max_le_iff {bound : Nat} (times : List Nat) (start : Nat) :
    times.foldl max start ≤ bound ↔ start ≤ bound ∧ ∀ time ∈ times, time ≤ bound := by
  induction times generalizing start with
  | nil => simp
  | cons time times ih =>
    rw [List.foldl_cons, ih, Nat.max_le, List.forall_mem_cons, and_assoc]

/-- A lookup takes no longer than a bound if and only if no source is waited for any longer. -/
theorem duration_le_iff {aggregator : Aggregator} {pair : TickerPair} {bound : Nat} :
    aggregator.duration pair ≤ bound ↔
      ∀ source ∈ aggregator.sources, (source.respond pair).waited aggregator.timeout ≤ bound := by
  rw [duration, foldl_max_le_iff, waits, List.forall_mem_map]
  exact and_iff_right (Nat.zero_le bound)

theorem duration_le_timeout (aggregator : Aggregator) (pair : TickerPair) :
    aggregator.duration pair ≤ aggregator.timeout := by
  rw [duration_le_iff]
  intro source _
  unfold Response.waited
  split
  · exact Nat.min_le_right ..
  · exact Nat.le_refl aggregator.timeout

end Aggregator

namespace Round

/-! ### The clock -/

theorem le_nextWake_iff {round : Round} {moment bound : Nat} :
    bound ≤ round.nextWake moment ↔ bound ≤ moment ∧ ∀ source ∈ round.waitedFor,
      bound ≤ round.due source := by
  unfold nextWake
  induction round.waitedFor with
  | nil => simp
  | cons source sources ih =>
    rw [List.map_cons, List.foldr_cons, Nat.le_min, ih, List.forall_mem_cons]
    exact and_left_comm

theorem mem_waitedFor {round : Round} {source : Source} :
    source ∈ round.waitedFor ↔ ∃ question ∈ round.questions,
      question.isOpen = true ∧ question.source = source := by
  simp [waitedFor, and_assoc]

theorem isOver_iff {round : Round} :
    round.isOver = true ↔ ∀ question ∈ round.questions, question.isOpen = false := by
  simp [isOver, waitedFor, List.filter_eq_nil_iff]

/-- Time goes by, or the round is over already. -/
theorem turn_wait {round : Round} {time : Nat} (hover : round.isOver = false) :
    round.turn (.wait time) = { round with clock := round.nextWake (round.clock + time) } := by
  simp [turn, hover]

theorem turn_of_isOver {round : Round} {time : Nat} (hover : round.isOver = true) :
    round.turn (.wait time) = round := by
  simp [turn, hover]

/-! ### What no turn changes -/

@[simp] theorem turn_pair (round : Round) (turn : Turn) : (round.turn turn).pair = round.pair := by
  cases turn with
  | look index => rfl
  | wait time => cases hover : round.isOver <;> simp [Round.turn, hover]

@[simp] theorem turn_begun (round : Round) (turn : Turn) :
    (round.turn turn).begun = round.begun := by
  cases turn with
  | look index => rfl
  | wait time => cases hover : round.isOver <;> simp [Round.turn, hover]

@[simp] theorem turn_deadline (round : Round) (turn : Turn) :
    (round.turn turn).deadline = round.deadline := by
  cases turn with
  | look index => rfl
  | wait time => cases hover : round.isOver <;> simp [Round.turn, hover]

@[simp] theorem turn_due (round : Round) (turn : Turn) (source : Source) :
    (round.turn turn).due source = round.due source := by
  simp [due]

theorem lookAt_source (round : Round) (question : Question) :
    (round.lookAt question).source = question.source := by
  unfold lookAt
  split <;> rfl

/-- A turn leaves the questions as they are, except that it may look at one of them. -/
theorem getElem?_questions_turn {round : Round} {turn : Turn} {index : Nat} {question : Question}
    (h : (round.turn turn).questions[index]? = some question) :
    ∃ before, round.questions[index]? = some before ∧
      (question = before ∧ turn ≠ .look index ∨ question = round.lookAt before ∧
        turn = .look index) := by
  cases turn with
  | wait time =>
    refine ⟨question, ?_, .inl ⟨rfl, by simp⟩⟩
    cases hover : round.isOver
    · rwa [turn_wait hover] at h
    · rwa [turn_of_isOver hover] at h
  | look looked =>
    rw [Round.turn, List.getElem?_modify, Option.map_eq_map, Option.map_eq_some_iff] at h
    obtain ⟨before, hbefore, rfl⟩ := h
    refine ⟨before, hbefore, ?_⟩
    by_cases hlooked : looked = index
    · exact .inr ⟨by simp [hlooked], by rw [hlooked]⟩
    · exact .inl ⟨by simp [hlooked], by simpa using hlooked⟩

/-- The sources stay as they are, in their order. -/
@[simp] theorem turn_sources (round : Round) (turn : Turn) :
    (round.turn turn).questions.map (·.source) = round.questions.map (·.source) := by
  cases turn with
  | wait time => cases hover : round.isOver <;> simp [Round.turn, hover]
  | look looked =>
    apply List.ext_getElem?
    intro index
    rw [List.getElem?_map, List.getElem?_map, Round.turn, List.getElem?_modify]
    by_cases hlooked : looked = index
    · simp [hlooked, Function.comp_def, lookAt_source]
    · simp [hlooked]

/-- A source that is still waited for after a turn was waited for before. -/
theorem question_of_isOpen_turn {round : Round} {turn : Turn} {index : Nat} {question : Question}
    (h : (round.turn turn).questions[index]? = some question) (hopen : question.isOpen = true) :
    round.questions[index]? = some question ∧
    (turn = .look index → round.seen? question.source = none) := by
  obtain ⟨before, hbefore, ⟨rfl, hturn⟩ | ⟨rfl, -⟩⟩ := getElem?_questions_turn h
  · exact ⟨hbefore, fun hlook => absurd hlook hturn⟩
  · unfold lookAt at hopen ⊢
    split at hopen
    next hbeforeOpen =>
      obtain ⟨source, answer⟩ := before
      have hunseen : round.seen? source = none := by simpa [Question.isOpen] using hopen
      have hunanswered : answer = none := by simpa [Question.isOpen] using hbeforeOpen
      simp [hbefore, hunseen, hunanswered, Question.isOpen]
    next hclosed => exact absurd hopen hclosed

/-! ### What holds of a round at any time -/

/-- What holds, at any time, of a round for a pair that began at a given time. -/
structure Sound (round : Round) (aggregator : Aggregator) (now : Nat) (pair : TickerPair) :
    Prop where
  pair_eq : round.pair = pair
  begun_eq : round.begun = now
  deadline_eq : round.deadline = now + aggregator.timeout
  sources_eq : round.questions.map (·.source) = aggregator.sources
  now_le_clock : now ≤ round.clock
  clock_le_finish : round.clock ≤ now + aggregator.duration pair
  /-- A source that is waited for is not overdue. -/
  clock_le_due : ∀ question ∈ round.questions,
    question.isOpen = true → round.clock ≤ round.due question.source
  /-- A source that is done with is due, and its answer counts. -/
  due_le_clock : ∀ question ∈ round.questions, ∀ answer ∈ question.answer,
    round.due question.source ≤ round.clock ∧
    answer = question.source.answer aggregator.timeout pair

variable {aggregator : Aggregator} {now : Nat} {pair : TickerPair} {round : Round}

namespace Sound

theorem due_eq (hsound : round.Sound aggregator now pair) (source : Source) :
    round.due source = now + (source.respond pair).waited aggregator.timeout := by
  rw [due, hsound.deadline_eq, hsound.begun_eq, hsound.pair_eq, Nat.add_sub_cancel_left]

/-- No source is due after the lookup ends. -/
theorem due_le_finish (hsound : round.Sound aggregator now pair) {question : Question}
    (hquestion : question ∈ round.questions) :
    round.due question.source ≤ now + aggregator.duration pair := by
  have hsource : question.source ∈ aggregator.sources := by
    rw [← hsound.sources_eq]
    exact List.mem_map_of_mem hquestion
  have hwaited := Aggregator.duration_le_iff.1 (Nat.le_refl (aggregator.duration pair)) _ hsource
  rw [hsound.due_eq]
  omega

/-- A look at a source that is not overdue shows the answer that counts as soon as the source is
    due. -/
theorem seen?_eq (hsound : round.Sound aggregator now pair) {source : Source}
    (hnotOverdue : round.clock ≤ round.due source) :
    round.seen? source =
      if round.due source ≤ round.clock then some (source.answer aggregator.timeout pair)
        else none := by
  have hclock := hsound.now_le_clock
  -- A source that is not overdue can only be there at the very moment it is due, so that a response
  -- that the look finds is one in time.
  rw [hsound.due_eq] at hnotOverdue ⊢
  rw [seen?, source.answer_eq, hsound.pair_eq, hsound.begun_eq, hsound.deadline_eq]
  cases hdelay : (source.respond pair).delay with
  | none =>
    simp only [Response.inTime, Response.waited, hdelay] at hnotOverdue ⊢
    simp
  | some delay =>
    simp only [Response.inTime, Response.waited, hdelay, decide_eq_true_eq] at hnotOverdue ⊢
    by_cases hthere : delay ≤ round.clock - now
    · rw [if_pos hthere, if_pos (by omega), if_pos (by omega)]
    · rw [if_neg hthere]
      by_cases hlate : now + aggregator.timeout ≤ round.clock
      · rw [if_pos hlate, if_pos (by omega), if_neg (by omega)]
      · rw [if_neg hlate, if_neg (by omega)]

/-- Time does not run backwards. -/
theorem clock_le_nextWake (hsound : round.Sound aggregator now pair) (time : Nat) :
    round.clock ≤ round.nextWake (round.clock + time) := by
  rw [le_nextWake_iff]
  refine ⟨Nat.le_add_right round.clock time, ?_⟩
  intro source hsource
  obtain ⟨question, hquestion, hopen, rfl⟩ := mem_waitedFor.1 hsource
  exact hsound.clock_le_due question hquestion hopen

/-- A look keeps what holds of a round. -/
private theorem turn_look (hsound : round.Sound aggregator now pair) (index : Nat) :
    (round.turn (.look index)).Sound aggregator now pair where
  pair_eq := hsound.pair_eq
  begun_eq := hsound.begun_eq
  deadline_eq := hsound.deadline_eq
  sources_eq := by rw [turn_sources, hsound.sources_eq]
  now_le_clock := hsound.now_le_clock
  clock_le_finish := hsound.clock_le_finish
  clock_le_due := by
    intro question hquestion hopen
    obtain ⟨position, hposition⟩ := List.getElem?_of_mem hquestion
    obtain ⟨hbefore, -⟩ := question_of_isOpen_turn hposition hopen
    exact hsound.clock_le_due question (List.mem_of_getElem? hbefore) hopen
  due_le_clock := by
    intro question hquestion answer hanswer
    obtain ⟨position, hposition⟩ := List.getElem?_of_mem hquestion
    obtain ⟨before, hbefore, ⟨rfl, -⟩ | ⟨rfl, -⟩⟩ := getElem?_questions_turn hposition
    · exact hsound.due_le_clock question (List.mem_of_getElem? hbefore) answer hanswer
    · have hmem := List.mem_of_getElem? hbefore
      rw [lookAt_source]
      unfold lookAt at hanswer
      split at hanswer
      next hopen =>
        rw [hsound.seen?_eq (hsound.clock_le_due before hmem hopen)] at hanswer
        split at hanswer
        next hdue => exact ⟨hdue, (Option.some.inj hanswer).symm⟩
        next => cases hanswer
      next => exact hsound.due_le_clock before hmem answer hanswer

/-- So does time that goes by, since it stops where a source that is waited for is due. -/
private theorem turn_wait (hsound : round.Sound aggregator now pair) (time : Nat) :
    (round.turn (.wait time)).Sound aggregator now pair := by
  cases hover : round.isOver with
  | true => rwa [turn_of_isOver hover]
  | false =>
    have hlater := hsound.clock_le_nextWake time
    have hwake := (le_nextWake_iff.1 (Nat.le_refl (round.nextWake (round.clock + time)))).2
    -- The clock cannot run past the end of the lookup: it stops at this source at the latest.
    obtain ⟨question, hquestion, hopen⟩ : ∃ question ∈ round.questions, question.isOpen = true := by
      simpa using mt isOver_iff.2 (by simp [hover])
    rw [Round.turn_wait hover]
    exact {
      pair_eq := hsound.pair_eq
      begun_eq := hsound.begun_eq
      deadline_eq := hsound.deadline_eq
      sources_eq := hsound.sources_eq
      now_le_clock := Nat.le_trans hsound.now_le_clock hlater
      clock_le_finish :=
        Nat.le_trans (hwake question.source (mem_waitedFor.2 ⟨question, hquestion, hopen, rfl⟩))
          (hsound.due_le_finish hquestion)
      clock_le_due := fun question hquestion hopen =>
        hwake question.source (mem_waitedFor.2 ⟨question, hquestion, hopen, rfl⟩)
      due_le_clock := fun question hquestion answer hanswer =>
        (hsound.due_le_clock question hquestion answer hanswer).imp_left (Nat.le_trans · hlater) }

/-- Every turn keeps what holds of a round. -/
theorem turn (hsound : round.Sound aggregator now pair) (turn : Turn) :
    (round.turn turn).Sound aggregator now pair := by
  cases turn with
  | look index => exact hsound.turn_look index
  | wait time => exact hsound.turn_wait time

/-- So do any turns. -/
theorem run (hsound : round.Sound aggregator now pair) (turns : List Turn) :
    (round.run turns).Sound aggregator now pair := by
  induction turns generalizing round with
  | nil => exact hsound
  | cons turn turns ih => exact ih (hsound.turn turn)

end Sound

/-! ### The end of a round -/

/-- The answers of a round that is over are those that count. -/
theorem Sound.answers_eq (hsound : round.Sound aggregator now pair) (hover : round.isOver = true) :
    round.answers = aggregator.answers pair := by
  have hanswer : ∀ question ∈ round.questions,
      question.answer = some (question.source.answer aggregator.timeout pair) := by
    intro question hquestion
    cases hquestionAnswer : question.answer with
    | none =>
      have hclosed := isOver_iff.1 hover question hquestion
      simp [Question.isOpen, hquestionAnswer] at hclosed
    | some answer => rw [(hsound.due_le_clock question hquestion answer hquestionAnswer).2]
  have hanswers : round.answers = round.questions.map fun question =>
      (question.source.name, question.source.answer aggregator.timeout pair) := by
    rw [answers, ← List.filterMap_eq_map]
    exact List.filterMap_congr fun question hquestion => by rw [hanswer question hquestion]; rfl
  rw [hanswers, Aggregator.answers, ← hsound.sources_eq, List.map_map]
  rfl

/-- It ends when the last source is done with. -/
theorem Sound.clock_eq (hsound : round.Sound aggregator now pair) (hover : round.isOver = true) :
    round.clock = now + aggregator.duration pair := by
  have hfinish : aggregator.duration pair ≤ round.clock - now := by
    rw [Aggregator.duration_le_iff, ← hsound.sources_eq, List.forall_mem_map]
    intro question hquestion
    obtain ⟨answer, hanswer⟩ := Option.isSome_iff_exists.1
      (Option.isNone_eq_false_iff.1 (isOver_iff.1 hover question hquestion))
    have hdue := (hsound.due_le_clock question hquestion answer hanswer).1
    rw [hsound.due_eq] at hdue
    omega
  have hlower := hsound.now_le_clock
  have hupper := hsound.clock_le_finish
  omega

theorem run_append (round : Round) (before after : List Turn) :
    round.run (before ++ after) = (round.run before).run after :=
  List.foldl_append

/-- A source that is waited for after some turns was waited for before. -/
theorem question_of_isOpen_run {turns : List Turn} {index : Nat} {question : Question}
    (h : (round.run turns).questions[index]? = some question) (hopen : question.isOpen = true) :
    round.questions[index]? = some question := by
  induction turns generalizing round with
  | nil => exact h
  | cons turn turns ih => exact (question_of_isOpen_turn (ih h) hopen).1

/-- A round that is over stays over. -/
theorem isOver_run (hover : round.isOver = true) (turns : List Turn) :
    (round.run turns).isOver = true := by
  rw [isOver_iff] at hover ⊢
  intro question hquestion
  obtain ⟨index, hindex⟩ := List.getElem?_of_mem hquestion
  by_contra hopen
  rw [Bool.not_eq_false] at hopen
  exact absurd (hover question (List.mem_of_getElem? (question_of_isOpen_run hindex hopen)))
    (by simp [hopen])

end Round

/-- Turns that look at every one of some sources, in any order, and then let some time go by. -/
def Turn.IsCycle (sources : Nat) (turns : List Turn) : Prop :=
  ∃ looks time, turns = looks ++ [.wait (time + 1)] ∧ ∀ index < sources, .look index ∈ looks

namespace Round

variable {aggregator : Aggregator} {now : Nat} {pair : TickerPair} {round : Round}

@[simp] theorem run_due (round : Round) (turns : List Turn) (source : Source) :
    (round.run turns).due source = round.due source := by
  induction turns generalizing round with
  | nil => rfl
  | cons turn turns ih =>
    change ((round.turn turn).run turns).due source = round.due source
    rw [ih, turn_due]

namespace Sound

theorem clock_le_turn (hsound : round.Sound aggregator now pair) (turn : Turn) :
    round.clock ≤ (round.turn turn).clock := by
  cases turn with
  | look index => exact Nat.le_refl round.clock
  | wait time =>
    cases hover : round.isOver with
    | true => exact Nat.le_of_eq (by rw [turn_of_isOver hover])
    | false =>
      rw [Round.turn_wait hover]
      exact hsound.clock_le_nextWake time

theorem clock_le_run (hsound : round.Sound aggregator now pair) (turns : List Turn) :
    round.clock ≤ (round.run turns).clock := by
  induction turns generalizing round with
  | nil => exact Nat.le_refl round.clock
  | cons turn turns ih => exact Nat.le_trans (hsound.clock_le_turn turn) (ih (hsound.turn turn))

/-- A source that is still waited for although it was looked at is due later than when the turns
    began. -/
theorem clock_lt_due_of_look (hsound : round.Sound aggregator now pair) {turns : List Turn}
    {index : Nat} {question : Question} (hlook : .look index ∈ turns)
    (h : (round.run turns).questions[index]? = some question) (hopen : question.isOpen = true) :
    round.clock < round.due question.source := by
  -- The look is either the first of the turns, and shows nothing, or among the later ones.
  induction turns generalizing round with
  | nil => cases hlook
  | cons turn turns ih =>
    have hrest : ((round.turn turn).run turns).questions[index]? = some question := h
    obtain ⟨hbefore, hseen⟩ := question_of_isOpen_turn (question_of_isOpen_run hrest hopen) hopen
    rcases List.mem_cons.1 hlook with hturn | hlater
    · have hunseen := hseen hturn.symm
      rw [hsound.seen?_eq
        (hsound.clock_le_due question (List.mem_of_getElem? hbefore) hopen)] at hunseen
      by_contra hdue
      rw [if_pos (Nat.le_of_not_lt hdue)] at hunseen
      cases hunseen
    · have hclock := hsound.clock_le_turn turn
      have hdue := ih (hsound.turn turn) hlater h
      rw [turn_due] at hdue
      omega

/-- Time moves in a cycle, unless the round is over. -/
theorem clock_lt_cycle (hsound : round.Sound aggregator now pair) {turns : List Turn}
    (hcycle : Turn.IsCycle aggregator.sources.length turns)
    (hover : (round.run turns).isOver = false) : round.clock < (round.run turns).clock := by
  obtain ⟨looks, time, rfl, hlooks⟩ := hcycle
  have hlength : (round.run looks).questions.length = aggregator.sources.length := by
    rw [← (hsound.run looks).sources_eq, List.length_map]
  have hbefore : (round.run looks).isOver = false := by
    by_contra hbefore
    rw [run_append, isOver_run (by simpa using hbefore)] at hover
    cases hover
  rw [run_append]
  change round.clock < ((round.run looks).turn (.wait (time + 1))).clock
  rw [Round.turn_wait hbefore]
  refine le_nextWake_iff.2 ⟨?_, ?_⟩
  · have hclock := hsound.clock_le_run looks
    omega
  · intro source hsource
    obtain ⟨question, hquestion, hopen, rfl⟩ := mem_waitedFor.1 hsource
    obtain ⟨index, hindex⟩ := List.getElem?_of_mem hquestion
    obtain ⟨hinside, -⟩ := List.getElem?_eq_some_iff.1 hindex
    rw [run_due]
    exact hsound.clock_lt_due_of_look (hlooks index (by omega)) hindex hopen

/-- A round is over after as many cycles as the lookup takes moments, and one more. -/
theorem isOver_run_cycles (hsound : round.Sound aggregator now pair) {cycles : List (List Turn)}
    (hcycles : ∀ turns ∈ cycles, Turn.IsCycle aggregator.sources.length turns)
    (hlong : now + aggregator.duration pair < round.clock + cycles.length) :
    (round.run cycles.flatten).isOver = true := by
  -- Every cycle that does not end the round uses up one of the moments that are left.
  induction cycles generalizing round with
  | nil =>
    have hclock := hsound.clock_le_finish
    simp only [List.length_nil] at hlong
    omega
  | cons turns cycles ih =>
    rw [List.flatten_cons, run_append]
    cases hover : (round.run turns).isOver with
    | true => exact isOver_run hover cycles.flatten
    | false =>
      have hclock := hsound.clock_lt_cycle (hcycles turns List.mem_cons_self) hover
      refine ih (hsound.run turns)
        (fun later hlater => hcycles later (List.mem_cons_of_mem turns hlater)) ?_
      rw [List.length_cons] at hlong
      omega

end Sound
end Round

namespace Aggregator

variable {aggregator : Aggregator} {now : Nat} {pair : TickerPair} {turns : List Turn}

/-- A round of a lookup is sound after any turns. -/
theorem sound_of_roundAfter? {round : Round}
    (h : aggregator.roundAfter? now pair turns = some round) : round.Sound aggregator now pair := by
  obtain ⟨start, hstart, rfl⟩ := Option.map_eq_some_iff.1 h
  obtain ⟨deadline, hdeadline, rfl⟩ := Option.map_eq_some_iff.1 hstart
  unfold deadline? at hdeadline
  split at hdeadline
  next =>
    obtain rfl := Option.some.inj hdeadline
    refine Round.Sound.run ?_ turns
    exact {
      pair_eq := rfl
      begun_eq := rfl
      deadline_eq := rfl
      sources_eq := by simp [Function.comp_def]
      now_le_clock := Nat.le_refl now
      clock_le_finish := Nat.le_add_right now (aggregator.duration pair)
      clock_le_due := fun question _ _ => Nat.le_add_right now _
      due_le_clock := by simp }
  next => cases hdeadline

/-- Whatever turns see a lookup to its end, it ends at the same time and brings the same
    readings. -/
theorem readings_eq_of_readingsAfter? {readings : Readings}
    (h : aggregator.readingsAfter? now pair turns = some readings) :
    readings = aggregator.readings pair ∧
      ∃ round, aggregator.roundAfter? now pair turns = some round ∧
        round.clock = now + aggregator.duration pair := by
  obtain ⟨round, hround, hreadings⟩ := Option.bind_eq_some_iff.1 h
  have hsound := sound_of_roundAfter? hround
  unfold Round.readings? at hreadings
  split at hreadings
  next hover =>
    obtain rfl := Option.some.inj hreadings
    refine ⟨?_, round, hround, hsound.clock_eq hover⟩
    rw [hsound.answers_eq hover, hsound.pair_eq]
    rfl
  next => cases hreadings

/-- They are the readings that are reckoned with where nobody asks how a lookup goes. -/
theorem readingsAt?_eq_of_readingsAfter? {readings : Readings}
    (h : aggregator.readingsAfter? now pair turns = some readings) :
    aggregator.readingsAt? now pair = some readings := by
  obtain ⟨hreadings, round, hround, -⟩ := readings_eq_of_readingsAfter? h
  obtain ⟨start, hstart, -⟩ := Option.map_eq_some_iff.1 hround
  obtain ⟨deadline, hdeadline, -⟩ := Option.map_eq_some_iff.1 hstart
  rw [readingsAt?, hdeadline, hreadings]
  rfl

/-- A lookup that has a deadline comes to its end if all sources are looked at again and again. -/
theorem isSome_readingsAfter?_of_cycles (hdeadline : now + aggregator.timeout < clockEnd)
    {cycles : List (List Turn)}
    (hcycles : ∀ turns ∈ cycles, Turn.IsCycle aggregator.sources.length turns)
    (hlong : aggregator.duration pair < cycles.length) :
    (aggregator.readingsAfter? now pair cycles.flatten).isSome = true := by
  obtain ⟨start, hstart, hclock⟩ :
      ∃ start, aggregator.roundAfter? now pair [] = some start ∧ start.clock = now := by
    simp [roundAfter?, round?, deadline?, hdeadline, Round.run]
  have hround : aggregator.roundAfter? now pair cycles.flatten =
      some (start.run cycles.flatten) := by
    obtain ⟨round, hround, rfl⟩ := Option.map_eq_some_iff.1 hstart
    rw [roundAfter?, hround]
    rfl
  have hover : (start.run cycles.flatten).isOver = true := by
    refine (sound_of_roundAfter? hstart).isOver_run_cycles hcycles ?_
    omega
  rw [readingsAfter?, hround, Option.bind_some, Round.readings?, if_pos hover]
  rfl

end Aggregator
end FeeOracle
