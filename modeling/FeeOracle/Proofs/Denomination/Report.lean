import FeeOracle.Proofs.Aggregator.JoinAsRace
import FeeOracle.Proofs.Denomination.Call

/-!
# Reports as calls

What is executed is one of the ways in which a call goes where the sources behave in the same way at
every lookup: it brings the same, it asks the sources for the same pairs in the same order, and it
writes the same lines (`exists_call_of_report`).
-/

namespace FeeOracle.Denomination

open Aggregator

/-- The pair that the sources are asked for in an event. -/
def CallEvent.asked? : CallEvent → Option TickerPair
  | .asked _ pair => some pair
  | _ => none

/-- The lines that are written in an event. -/
def CallEvent.lines : CallEvent → List LogLine
  | .lookedUp _ warnings => warnings
  | .skipped _ warning => [warning]
  | .ended line => [line]
  | _ => []

namespace Progress

/-- The pairs that the sources were asked for. -/
def asked (progress : Progress) : List TickerPair := progress.events.filterMap CallEvent.asked?

/-- The lines that were written. -/
def lines (progress : Progress) : List LogLine := progress.events.flatMap CallEvent.lines

end Progress

/-- A course on which the sources behave in the same way at every lookup. -/
def Course.steady (aggregator : Aggregator) (gas : GasResponse) (turns : Nat → List RaceTurn) :
    Course where
  gas := gas
  panel := .ofAggregator aggregator
  turns := turns

theorem Course.steady_gas (aggregator : Aggregator) (gas : GasResponse)
    (turns : Nat → List RaceTurn) : (Course.steady aggregator gas turns).gas = gas :=
  rfl

namespace Call

variable {course other : Course} {settings : GasSettings} {fast : Nat} {progress : Progress}

/-- The events of the lookups of a target, as those of a call, ask for the pairs of the lookups. -/
theorem filterMap_asked?_eventOf (place : Nat) (inquiry : Side → Inquiry)
    (events : List RaceEvent) :
    (events.map (eventOf place inquiry)).filterMap CallEvent.asked? =
      (events.filterMap RaceEvent.asked?).map fun side => (inquiry side).pair := by
  rw [List.filterMap_map, List.map_filterMap]
  refine List.filterMap_congr fun event _ => ?_
  cases event <;> rfl

theorem flatMap_lines_eventOf (place : Nat) (inquiry : Side → Inquiry) (events : List RaceEvent) :
    (events.map (eventOf place inquiry)).flatMap CallEvent.lines =
      events.flatMap RaceEvent.warnings := by
  rw [List.flatMap_map]
  refine List.flatMap_congr fun event _ => ?_
  cases event <;> rfl

/-- The amount of a target depends on no turns but its own. -/
theorem amount_congr (hpanel : course.panel = other.panel) {place : Nat}
    (hturns : course.turns place = other.turns place) (target : TargetAsset) :
    amount course settings fast target place = amount other settings fast target place := by
  have hlookUp : lookUp course place = lookUp other place := by
    funext assetPair nativePair progress
    simp only [lookUp, hpanel, hturns]
  simp only [amount, hlookUp]

theorem rows_congr (hpanel : course.panel = other.panel) {items : List (TargetAsset × Nat)}
    (hturns : ∀ item ∈ items, course.turns item.2 = other.turns item.2) :
    rows course settings fast items = rows other settings fast items := by
  induction items with
  | nil => rfl
  | cons item items ih =>
    obtain ⟨target, place⟩ := item
    rw [rows, rows, amount_congr hpanel (hturns (target, place) List.mem_cons_self),
      ih fun item hitem => hturns item (List.mem_cons_of_mem _ hitem)]

/-- A join is what the lookups of a target may come to. -/
theorem exists_lookUp (aggregator : Aggregator) (gas : GasResponse) (place : Nat)
    (assetPair nativePair : TickerPair)
    (hdeadline : progress.clock + aggregator.timeout < clockEnd) :
    ∃ turns next,
      (lookUp (.steady aggregator gas fun _ => turns) place assetPair nativePair).run progress =
        .ok ((aggregator.join assetPair nativePair).outcome, next) ∧
      next.asked = progress.asked ++ aggregator.askedByJoin assetPair nativePair ∧
      next.lines = progress.lines ++ (aggregator.join assetPair nativePair).warnings := by
  let inquiry := (Panel.ofAggregator aggregator).inquiry place assetPair nativePair
  have haggregator : ∀ side, (inquiry side).aggregator = aggregator := fun _ => rfl
  obtain ⟨turns, race, hrun, houtcome, hwarnings, hasked⟩ :=
    Aggregator.exists_race_of_join haggregator hdeadline
  let events := progress.events ++ race.events.map (eventOf place inquiry)
  refine ⟨turns, { clock := race.clock, events }, ?_, ?_, ?_⟩
  · simp only [lookUp, StateT.run, Course.steady]
    rw [hrun]
    dsimp only
    rw [houtcome]
    rfl
  · rw [Progress.asked, List.filterMap_append, filterMap_asked?_eventOf]
    exact congrArg _ hasked
  · rw [Progress.lines, List.flatMap_append, flatMap_lines_eventOf]
    exact congrArg _ hwarnings

/-- What is executed for a target is what a call may do for it. -/
theorem exists_amount (aggregator : Aggregator) (gas : GasResponse) (settings : GasSettings)
    (fast : Nat) (target : TargetAsset) (place : Nat)
    (hdeadline : progress.clock + aggregator.timeout < clockEnd) :
    ∃ turns next,
      (amount (.steady aggregator gas fun _ => turns) settings fast target place).run progress =
        .ok ((denominateTarget aggregator settings fast target).amount, next) ∧
      next.asked = progress.asked ++ (denominateTarget aggregator settings fast target).asked ∧
      next.lines = progress.lines ++
        (denominateTarget aggregator settings fast target).warnings := by
  cases hnative : isNative settings target.ticker with
  | true =>
    simp only [amount, denominateTarget, hnative, if_true]
    exact ⟨[], progress, rfl, (List.append_nil _).symm, (List.append_nil _).symm⟩
  | false =>
    cases hpairs : neededPairs settings target.ticker with
    | error cause =>
      simp only [amount, denominateTarget, hnative, hpairs, Bool.false_eq_true, if_false]
      exact ⟨[], progress, rfl, (List.append_nil _).symm, (List.append_nil _).symm⟩
    | ok pairs =>
      obtain ⟨assetPair, nativePair⟩ := pairs
      obtain ⟨turns, next, hlookUp, hasked, hlines⟩ :=
        exists_lookUp aggregator gas place assetPair nativePair hdeadline
      simp only [amount, denominateTarget, hnative, hpairs, Bool.false_eq_true, if_false]
      exact ⟨turns, next, run_bind_eq_ok_iff.2 ⟨_, next, hlookUp, rfl⟩, hasked, hlines⟩

section Rows

variable {aggregator : Aggregator} {gas : GasResponse} {target : TargetAsset} {place : Nat}
  {items : List (TargetAsset × Nat)} {later : List Row} {middle last : Progress}

/-- A target goes by the turns at its own place. -/
theorem amount_update (turns : Nat → List RaceTurn) (own : List RaceTurn) :
    amount (.steady aggregator gas (Function.update turns place own)) settings fast target place =
      amount (.steady aggregator gas fun _ => own) settings fast target place := by
  refine amount_congr ?_ ?_ target
  · rfl
  · exact Function.update_self ..

/-- To the others the turns at this place make no difference. -/
theorem rows_update (turns : Nat → List RaceTurn) (own : List RaceTurn)
    (hplace : place ∉ items.map (·.2)) :
    rows (.steady aggregator gas (Function.update turns place own)) settings fast items =
      rows (.steady aggregator gas turns) settings fast items := by
  refine rows_congr ?_ fun item hitem => ?_
  · rfl
  · have hother : item.2 ≠ place := fun hsame => hplace (List.mem_map.2 ⟨item, hitem, hsame⟩)
    exact Function.update_of_ne hother own turns

/-- A target with an amount has its row before those of the later ones. -/
theorem run_rows_of_ok {text : String}
    (hamount : (amount course settings fast target place).run progress = .ok (.ok text, middle))
    (hlater : (rows course settings fast items).run middle = .ok (later, last)) :
    (rows course settings fast ((target, place) :: items)).run progress =
      .ok ({ base := target.ticker, amount := text } :: later, last) := by
  rw [rows]
  refine run_bind_eq_ok_iff.2 ⟨_, middle, hamount, ?_⟩
  exact run_bind_eq_ok_iff.2 ⟨_, last, hlater, rfl⟩

/-- A target without an amount is noted, and the later ones make up the rows. -/
theorem run_rows_of_error {cause : Skipped}
    (hamount : (amount course settings fast target place).run progress = .ok (.error cause, middle))
    (hlater : (rows course settings fast items).run
      { middle with events := middle.events ++ [.skipped place (skippedLine target cause)] } =
        .ok (later, last)) :
    (rows course settings fast ((target, place) :: items)).run progress = .ok (later, last) := by
  rw [rows]
  refine run_bind_eq_ok_iff.2 ⟨_, middle, hamount, ?_⟩
  exact run_bind_eq_ok_iff.2 ⟨_, _, run_note _ _, hlater⟩

end Rows

/-- What is executed for some targets is what a call may do for them, one after the other. -/
theorem exists_rows (progress : Progress) (aggregator : Aggregator) (gas : GasResponse)
    (settings : GasSettings) (fast : Nat) {items : List (TargetAsset × Nat)}
    (hplaces : (items.map (·.2)).Nodup)
    (hdeadline : progress.clock + items.length * aggregator.timeout < clockEnd) :
    ∃ turns next,
      (rows (.steady aggregator gas turns) settings fast items).run progress =
        .ok ((tableAt aggregator settings fast items).rows, next) ∧
      next.asked = progress.asked ++ (tableAt aggregator settings fast items).asked ∧
      next.lines = progress.lines ++ (tableAt aggregator settings fast items).lines := by
  induction items generalizing progress with
  | nil => exact ⟨fun _ => [], progress, rfl, (List.append_nil _).symm, (List.append_nil _).symm⟩
  | cons item items ih =>
    obtain ⟨target, place⟩ := item
    obtain ⟨hplace, hplaces⟩ := List.nodup_cons.1 hplaces
    rw [List.length_cons, Nat.add_mul, Nat.one_mul] at hdeadline
    have hsoon : progress.clock + aggregator.timeout < clockEnd := by omega
    obtain ⟨own, middle, hamount, hasked, hlines⟩ :=
      exists_amount aggregator gas settings fast target place hsoon
    have hclock : middle.clock ≤ progress.clock + aggregator.timeout := clock_amount hamount
    -- The turns of the later targets are added to those of this one, which is at another place.
    rw [tableAt_cons, TargetOutcome.row?, TargetOutcome.lines]
    cases houtcome : (denominateTarget aggregator settings fast target).amount with
    | ok amount =>
      obtain ⟨turns, last, hlater, hlastAsked, hlastLines⟩ := ih middle hplaces (by omega)
      rw [houtcome, ← amount_update turns] at hamount
      rw [← rows_update turns own hplace] at hlater
      refine ⟨Function.update turns place own, last, run_rows_of_ok hamount hlater, ?_, ?_⟩
      · rw [hlastAsked, hasked, List.append_assoc]
      · rw [hlastLines, hlines, List.append_assoc]
    | error cause =>
      have hlate : middle.clock + items.length * aggregator.timeout < clockEnd := by omega
      obtain ⟨turns, last, hlater, hlastAsked, hlastLines⟩ :=
        ih { middle with events := middle.events ++ [.skipped place (skippedLine target cause)] }
          hplaces hlate
      rw [houtcome, ← amount_update turns] at hamount
      rw [← rows_update turns own hplace] at hlater
      refine ⟨Function.update turns place own, last, run_rows_of_error hamount hlater, ?_, ?_⟩
      · rw [hlastAsked, ← List.append_assoc, ← hasked]
        simp [Progress.asked, CallEvent.asked?]
      · rw [hlastLines, ← List.append_assoc, ← List.append_assoc, ← hlines]
        simp [Progress.lines, CallEvent.lines]

end Call

open Call

/-- A report is what a call may come to where the sources behave in the same way at every lookup: it
    brings the same, the sources are asked for the same pairs, and the same lines are written. -/
theorem exists_call_of_report (aggregator : Aggregator) (settings : GasSettings)
    (gas : GasResponse) (now : Nat)
    (hdeadline : now + gas.delay + settings.targets.length * aggregator.timeout < clockEnd) :
    ∃ turns last,
      (Course.steady aggregator gas turns).call settings now =
        .ok ((report aggregator settings gas.outcome).rows, last) ∧
      last.asked = (report aggregator settings gas.outcome).asked ∧
      last.lines = (report aggregator settings gas.outcome).lines := by
  cases houtcome : gas.outcome with
  | error cause =>
    refine ⟨fun _ => [],
      ⟨now + gas.delay, [.gasRead, .ended (unavailableLine { cause })]⟩, ?_, rfl, rfl⟩
    refine run_bind_eq_ok_iff.2 ⟨_, _, run_readGas _ _, ?_⟩
    rw [Course.steady_gas, houtcome]
    exact run_bind_eq_ok_iff.2 ⟨_, _, run_note _ _, rfl⟩
  | ok tiers =>
    have hplaces : (settings.targets.zipIdx.map (·.2)).Nodup := by
      rw [List.zipIdx_map_snd]
      exact List.nodup_range'
    obtain ⟨turns, last, hrows, hasked, hlines⟩ :=
      exists_rows { clock := now + gas.delay, events := [.gasRead] }
      aggregator gas settings tiers.fast hplaces (by simpa using hdeadline)
    rw [← denominateAll_eq] at hrows hasked hlines
    let summary :=
      summaryLine settings tiers.fast (denominateAll aggregator settings tiers.fast).rows
    refine ⟨turns, { last with events := last.events ++ [.ended summary] }, ?_, ?_, ?_⟩
    · refine run_bind_eq_ok_iff.2 ⟨_, _, run_readGas _ _, ?_⟩
      rw [Course.steady_gas, houtcome]
      refine run_bind_eq_ok_iff.2 ⟨_, _, hrows, ?_⟩
      exact run_bind_eq_ok_iff.2 ⟨_, _, run_note _ _, rfl⟩
    · rw [Progress.asked, List.filterMap_append, ← Progress.asked, hasked]
      exact List.append_nil (denominateAll aggregator settings tiers.fast).asked
    · rw [Progress.lines, List.flatMap_append, ← Progress.lines, hlines]
      rfl

end FeeOracle.Denomination
