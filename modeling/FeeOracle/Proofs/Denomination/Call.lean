import FeeOracle.Proofs.Denomination.Targets
import FeeOracle.Proofs.Ticker

/-!
# What calls bring

However a call goes, it reads the gas price once, before anything else, and without a gas price it
ends there. Otherwise its rows are those of the targets that have an amount (`Call.run_rows`), and
what an amount is depends on nothing but the target and what its own two lookups bring. Each target
without an amount is told of in one warning.
-/

namespace FeeOracle.Denomination

open Aggregator

namespace Call

variable {α β : Type} {course : Course} {settings : GasSettings} {fast : Nat}
  {progress next : Progress}

/-! ### Parts of calls -/

theorem run_bind_eq_ok_iff {first : Call α} {second : α → Call β} {result : β} :
    (first >>= second).run progress = .ok (result, next) ↔
      ∃ value middle, first.run progress = .ok (value, middle) ∧
        (second value).run middle = .ok (result, next) := by
  rw [StateT.run_bind, bind_eq_ok_iff, Prod.exists]

theorem run_pure_eq_ok_iff {value result : α} :
    (pure value : Call α).run progress = .ok (result, next) ↔ value = result ∧ progress = next := by
  rw [StateT.run_pure]
  simp [pure, Except.pure]

theorem run_note (event : CallEvent) (progress : Progress) :
    (note event).run progress = .ok ((), { progress with events := progress.events ++ [event] }) :=
  rfl

theorem run_readGas (gas : GasResponse) (progress : Progress) :
    (readGas gas).run progress =
      .ok (gas.outcome,
        { clock := progress.clock + gas.delay, events := progress.events ++ [.gasRead] }) :=
  rfl

/-- The lookups of a target bring what two lookups at once bring. -/
theorem race_of_lookUp {place : Nat} {assetPair nativePair : TickerPair}
    {prices : Except NoQuote (Double × Double)}
    (h : (lookUp course place assetPair nativePair).run progress = .ok (prices, next)) :
    ∃ race : Race, race.Sound (course.panel.inquiry place assetPair nativePair) progress.clock ∧
      race.HasAsked ∧ race.outcome? = some prices ∧
      next.events = progress.events ++
        race.events.map (eventOf place (course.panel.inquiry place assetPair nativePair)) := by
  simp only [lookUp, StateT.run] at h
  split at h
  next => cases h
  next race hrace =>
    split at h
    next => cases h
    next outcome houtcome =>
      cases h
      exact ⟨race, (Race.sound_start _ _).run hrace, (Race.hasAsked_start _ _).run hrace,
        houtcome, rfl⟩

theorem isLookup_eventOf {target : TargetAsset} {place : Nat} {assetPair nativePair : TickerPair}
    (hpairs : neededPairs settings target.ticker = .ok (assetPair, nativePair)) {race : Race}
    {now : Nat} (hsound : race.Sound (course.panel.inquiry place assetPair nativePair) now)
    {event : RaceEvent} (hevent : event ∈ race.events) :
    IsLookup course.panel settings target place
      (eventOf place (course.panel.inquiry place assetPair nativePair) event) := by
  cases event with
  | asked side => exact .asked hpairs side
  | lookedUp side warnings =>
    obtain rfl := hsound.warnings_eq side warnings hevent
    exact .lookedUp hpairs side

/-- Where the lookups of a target are decided, the target has the amount that comes of them. -/
theorem toOption_amountAt_of_race {target : TargetAsset} {place : Nat}
    (hforeign : isNative settings target.ticker = false) {assetPair nativePair : TickerPair}
    (hpairs : neededPairs settings target.ticker = .ok (assetPair, nativePair)) {race : Race}
    {now : Nat} (hsound : race.Sound (course.panel.inquiry place assetPair nativePair) now)
    {prices : Except NoQuote (Double × Double)} (hprices : race.outcome? = some prices) :
    (amountAt settings fast target prices).toOption =
      course.panel.amount? settings fast target place := by
  rw [toOption_amountAt, hsound.toOption_outcome hprices,
    Panel.amount?_of_neededPairs _ _ _ hforeign hpairs]
  rfl

/-- Otherwise there is a reason to leave it out. -/
theorem leftOut_of_race {target : TargetAsset} {place : Nat} {assetPair nativePair : TickerPair}
    (hpairs : neededPairs settings target.ticker = .ok (assetPair, nativePair)) {race : Race}
    {now : Nat} (hsound : race.Sound (course.panel.inquiry place assetPair nativePair) now)
    {prices : Except NoQuote (Double × Double)} (hprices : race.outcome? = some prices)
    {cause : Skipped} (h : amountAt settings fast target prices = .error cause) :
    LeftOut course.panel settings fast target place cause := by
  rcases hsound.outcome hprices with ⟨assetPrice, nativePrice, rfl, hasset, hnative⟩
    | ⟨failure, side, rfl, hquote⟩
  · unfold amountAt at h
    dsimp only at h
    split at h
    next => cases h
    next hconversion =>
      obtain rfl := Except.error.inj h
      exact .conversion hpairs hasset hnative hconversion
  · obtain rfl := Except.error.inj h
    refine .noQuote hpairs ?_
    cases side with
    | first => exact .inl hquote
    | second => exact .inr hquote

/-- The chain's own coin and a target with a blank ticker are settled at once; any other is looked
    up. -/
theorem amount_cases {target : TargetAsset} {place : Nat} {outcome : Except Skipped String}
    (h : (amount course settings fast target place).run progress = .ok (outcome, next)) :
    isNative settings target.ticker = true ∧ outcome = .ok (toString fast) ∧ next = progress ∨
      isNative settings target.ticker = false ∧
        ((∃ cause, neededPairs settings target.ticker = .error cause ∧
          outcome = .error (.ticker cause) ∧ next = progress) ∨
        ∃ assetPair nativePair prices,
          neededPairs settings target.ticker = .ok (assetPair, nativePair) ∧
          (lookUp course place assetPair nativePair).run progress = .ok (prices, next) ∧
          outcome = amountAt settings fast target prices) := by
  unfold amount at h
  split at h
  next hnative =>
    obtain ⟨rfl, rfl⟩ := run_pure_eq_ok_iff.1 h
    exact .inl ⟨hnative, rfl, rfl⟩
  next hforeign =>
    refine .inr ⟨Bool.eq_false_iff.2 hforeign, ?_⟩
    split at h
    next cause hpairs =>
      obtain ⟨rfl, rfl⟩ := run_pure_eq_ok_iff.1 h
      exact .inl ⟨cause, hpairs, rfl, rfl⟩
    next assetPair nativePair hpairs =>
      obtain ⟨prices, middle, hlookUp, hpure⟩ := run_bind_eq_ok_iff.1 h
      obtain ⟨rfl, rfl⟩ := run_pure_eq_ok_iff.1 hpure
      exact .inr ⟨assetPair, nativePair, prices, hpairs, hlookUp, rfl⟩

/-- What comes of one target, and what the call does for it until then. -/
theorem run_amount {target : TargetAsset} {place : Nat} {outcome : Except Skipped String}
    (h : (amount course settings fast target place).run progress = .ok (outcome, next)) :
    outcome.toOption = course.panel.amount? settings fast target place ∧
      ∃ lookups, next.events = progress.events ++ lookups ∧
        (∀ event ∈ lookups, IsLookup course.panel settings target place event) ∧
        (isNative settings target.ticker = true → lookups = []) ∧
        ∀ cause, outcome = .error cause → isNative settings target.ticker = false ∧
          LeftOut course.panel settings fast target place cause := by
  obtain ⟨hnative, rfl, rfl⟩ | ⟨hforeign, ⟨cause, hpairs, rfl, rfl⟩ |
    ⟨assetPair, nativePair, prices, hpairs, hlookUp, rfl⟩⟩ := amount_cases h
  · exact ⟨by simp [Panel.amount?, hnative, Except.toOption], [], by simp⟩
  · refine ⟨by simp [Panel.amount?, hforeign, hpairs, Except.toOption], [],
      by simp, by simp, by simp, ?_⟩
    rintro _ ⟨⟩
    exact ⟨hforeign, .ticker hpairs⟩
  · obtain ⟨race, hsound, -, hprices, hevents⟩ := race_of_lookUp hlookUp
    refine ⟨toOption_amountAt_of_race hforeign hpairs hsound hprices, _, hevents, ?_,
      by simp [hforeign],
      fun cause hcause => ⟨hforeign, leftOut_of_race hpairs hsound hprices hcause⟩⟩
    intro event hevent
    obtain ⟨raceEvent, hraceEvent, rfl⟩ := List.mem_map.1 hevent
    exact isLookup_eventOf hpairs hsound hraceEvent

/-- The rows of some targets, and what the call does for them, one after the other. -/
theorem run_rows {items : List (TargetAsset × Nat)} {result : List Row}
    (h : (rows course settings fast items).run progress = .ok (result, next)) :
    result = items.filterMap (course.panel.row? settings fast) ∧
      ∃ parts, next.events = progress.events ++ parts.flatten ∧
        List.Forall₂ (fun item part => TargetEvents course.panel settings fast item.1 item.2 part)
          items parts := by
  induction items generalizing progress result with
  | nil =>
    obtain ⟨rfl, rfl⟩ := run_pure_eq_ok_iff.1 h
    exact ⟨rfl, [], by simp, .nil⟩
  | cons item items ih =>
    obtain ⟨target, place⟩ := item
    obtain ⟨outcome, middle, hamount, hrest⟩ := run_bind_eq_ok_iff.1 h
    obtain ⟨houtcome, lookups, hmiddle, hlookups, hnative, hleftOut⟩ := run_amount hamount
    cases outcome with
    | ok amount =>
      obtain ⟨later, last, hlater, hpure⟩ := run_bind_eq_ok_iff.1 hrest
      obtain ⟨rfl, rfl⟩ := run_pure_eq_ok_iff.1 hpure
      obtain ⟨rfl, parts, hlast, hparts⟩ := ih hlater
      have hrow : course.panel.row? settings fast (target, place) =
          some { base := target.ticker, amount } := by
        rw [Panel.row?, ← houtcome]
        rfl
      refine ⟨by rw [List.filterMap_cons_some hrow], lookups :: parts, ?_, .cons ?_ hparts⟩
      · rw [hlast, hmiddle, List.flatten_cons, List.append_assoc]
      · cases hforeign : isNative settings target.ticker with
        | true =>
          obtain rfl := hnative hforeign
          exact .native hforeign
        | false => exact .priced hforeign hlookups houtcome.symm
    | error cause =>
      obtain ⟨_, noted, hnote, hlater⟩ := run_bind_eq_ok_iff.1 hrest
      rw [run_note] at hnote
      cases hnote
      obtain ⟨rfl, parts, hlast, hparts⟩ := ih hlater
      obtain ⟨hforeign, hcause⟩ := hleftOut cause rfl
      have hnone : course.panel.amount? settings fast target place = none := houtcome.symm
      have hrow : course.panel.row? settings fast (target, place) = none := by
        rw [Panel.row?, hnone, Option.map_none]
      refine ⟨by rw [List.filterMap_cons_none hrow], _, ?_,
        .cons (.leftOut hforeign hlookups hnone hcause) hparts⟩
      simp only [hlast, hmiddle, List.flatten_cons, List.append_assoc]

theorem denominated_of_ok {result : Except ProviderUnavailable (List Row)}
    (h : (denominated course settings).run progress = .ok (result, next)) :
    (∀ cause, course.gas.outcome = .error cause → result = .error { cause } ∧
      next.events = progress.events ++ [.gasRead, .ended (unavailableLine { cause })]) ∧
    ∀ tiers, course.gas.outcome = .ok tiers → ∃ rows parts, result = .ok rows ∧
      rows = settings.targets.zipIdx.filterMap (course.panel.row? settings tiers.fast) ∧
      next.events =
        progress.events ++ .gasRead ::
          (parts.flatten ++ [.ended (summaryLine settings tiers.fast rows)]) ∧
      List.Forall₂
        (fun item part => TargetEvents course.panel settings tiers.fast item.1 item.2 part)
        settings.targets.zipIdx parts := by
  obtain ⟨outcome, middle, hread, hrest⟩ := run_bind_eq_ok_iff.1 h
  rw [run_readGas] at hread
  cases hread
  cases houtcome : course.gas.outcome with
  | error cause =>
    rw [houtcome] at hrest
    obtain ⟨_, noted, hnote, hpure⟩ := run_bind_eq_ok_iff.1 hrest
    rw [run_note] at hnote
    cases hnote
    obtain ⟨rfl, rfl⟩ := run_pure_eq_ok_iff.1 hpure
    simp
  | ok tiers =>
    rw [houtcome] at hrest
    obtain ⟨found, gone, hrows, hend⟩ := run_bind_eq_ok_iff.1 hrest
    obtain ⟨_, noted, hnote, hpure⟩ := run_bind_eq_ok_iff.1 hend
    rw [run_note] at hnote
    cases hnote
    obtain ⟨rfl, rfl⟩ := run_pure_eq_ok_iff.1 hpure
    obtain ⟨hfound, parts, hgone, hparts⟩ := run_rows hrows
    refine ⟨by simp, ?_⟩
    rintro _ ⟨⟩
    exact ⟨found, parts, rfl, hfound, by simp [hgone], hparts⟩

/-! ### The end of calls -/

theorem run_bind_eq_error_iff {first : Call α} {second : α → Call β} {halt : Halt} :
    (first >>= second).run progress = .error halt ↔
      first.run progress = .error halt ∨
        ∃ value middle,
          first.run progress = .ok (value, middle) ∧ (second value).run middle = .error halt := by
  rw [StateT.run_bind]
  cases hfirst : first.run progress with
  | error cause => simp [bind, Except.bind]
  | ok value => simp [bind, Except.bind, Prod.ext_iff]

theorem clock_lookUp {place : Nat} {assetPair nativePair : TickerPair}
    {prices : Except NoQuote (Double × Double)}
    (h : (lookUp course place assetPair nativePair).run progress = .ok (prices, next)) :
    next.clock ≤ progress.clock + course.panel.timeout := by
  simp only [lookUp, StateT.run] at h
  split at h
  next => cases h
  next race hrace =>
    split at h
    next => cases h
    next =>
      cases h
      exact (Race.sound_start _ _).clock_le_finish_of_run (fun side => duration_le_timeout _ _)
        (Nat.le_add_right progress.clock _) hrace

end Call

/-- Do the turns see the lookups of every target to their end? All sources are looked at again and
    again. -/
def Course.IsFair (course : Course) : Prop :=
  ∀ place, ∃ cycles : List (List RaceTurn), course.turns place = cycles.flatten ∧
    (∀ turns ∈ cycles,
      RaceTurn.IsCycle (fun side => (course.panel.sources ⟨place, side⟩).length) turns) ∧
    course.panel.timeout + 1 < cycles.length

namespace Call

variable {α : Type} {course : Course} {settings : GasSettings} {fast : Nat}
  {progress next : Progress}

theorem halt_lookUp (hfair : course.IsFair) {place : Nat} {assetPair nativePair : TickerPair}
    {halt : Halt} (h : (lookUp course place assetPair nativePair).run progress = .error halt) :
    halt = .noDeadline progress.clock ∧ clockEnd ≤ progress.clock + course.panel.timeout := by
  obtain ⟨cycles, hturns, hcycles, hlong⟩ := hfair place
  have hbound : ∀ side, (course.panel.inquiry place assetPair nativePair side).aggregator.duration
      (course.panel.inquiry place assetPair nativePair side).pair ≤ course.panel.timeout :=
    fun side => duration_le_timeout ..
  simp only [lookUp, StateT.run] at h
  split at h
  next hnone =>
    cases h
    refine ⟨rfl, Nat.le_of_not_lt fun hdeadline => ?_⟩
    obtain ⟨race, hrace⟩ := Race.exists_run (Race.sound_start
      (course.panel.inquiry place assetPair nativePair) progress.clock) (fun _ => hdeadline)
        (course.turns place)
    rw [hrace] at hnone
    cases hnone
  next race hrace =>
    split at h
    next hundecided =>
      rw [hturns] at hrace
      have hdecided := Race.isSome_outcome?_of_cycles hbound hcycles hlong hrace
      rw [hundecided] at hdecided
      cases hdecided
    next => cases h

theorem clock_amount {target : TargetAsset} {place : Nat} {outcome : Except Skipped String}
    (h : (amount course settings fast target place).run progress = .ok (outcome, next)) :
    next.clock ≤ progress.clock + course.panel.timeout := by
  obtain ⟨-, -, rfl⟩ | ⟨-, ⟨cause, -, -, rfl⟩ | ⟨assetPair, nativePair, prices, -, hlookUp, -⟩⟩ :=
    amount_cases h
  · exact Nat.le_add_right next.clock _
  · exact Nat.le_add_right next.clock _
  · exact clock_lookUp hlookUp

theorem run_pure_ne_error {value : α} {halt : Halt} :
    (pure value : Call α).run progress ≠ .error halt := by
  intro h
  cases h

theorem halt_amount (hfair : course.IsFair) {target : TargetAsset} {place : Nat} {halt : Halt}
    (h : (amount course settings fast target place).run progress = .error halt) :
    halt = .noDeadline progress.clock ∧ clockEnd ≤ progress.clock + course.panel.timeout := by
  unfold amount at h
  split at h
  next => exact absurd h run_pure_ne_error
  next =>
    split at h
    next => exact absurd h run_pure_ne_error
    next =>
      rcases run_bind_eq_error_iff.1 h with hlookUp | ⟨prices, middle, -, hpure⟩
      · exact halt_lookUp hfair hlookUp
      · exact absurd hpure run_pure_ne_error

end Call

open Call

/-- A venue that quotes two coins, the one at once and the other after a moment, and lists no
    others. -/
def venue : Aggregator where
  sources := [{
    name := "venue"
    respond := fun pair =>
      if pair.base = "ETH" then { delay := some 1, outcome := .ok 3000 }
      else if pair.base = "EGLD" then { delay := some 0, outcome := .ok 40 }
      else { delay := some 0, outcome := .error (.unknownTicker "venue" pair.base pair.quote) } }]
  timeout := 2

/-- A call that begins the lookups in the reverse order, and looks at the source of the coin
    first. -/
def venueCourse : Course where
  gas := { delay := 5, outcome := .ok ⟨15, 30, 60⟩ }
  panel := .ofAggregator venue
  turns := fun _ =>
    (List.replicate 4 [.ask .second, .ask .first, .look .second 0, .look .first 0, .wait 1]).flatten

theorem isFair_venueCourse : venueCourse.IsFair := by
  intro place
  refine ⟨_, rfl, fun turns hturns => ?_, by decide⟩
  rw [List.eq_of_mem_replicate hturns]
  refine ⟨[.ask .second, .ask .first, .look .second 0, .look .first 0], 0, rfl, fun side => ?_⟩
  refine ⟨by cases side <;> decide, ?_⟩
  intro index hindex
  obtain rfl : index = 0 := Nat.lt_one_iff.1 hindex
  cases side <;> decide

end FeeOracle.Denomination
