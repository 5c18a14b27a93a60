import FeeOracle.Configuration.Load
import FeeOracle.Proofs.Configuration.Acceptance

/-!
# What holds of loaded configurations

A configuration may be loaded from a text or from a file. Either way it is usable, and all its
tickers are in normal form (`Configuration.IsLoaded.isUsable`, `Configuration.IsLoaded.isNormal`).
-/

namespace FeeOracle

/-- Settings with every ticker in normal form and no more decimals than can be computed with. -/
structure GasSettings.IsNormal (settings : GasSettings) : Prop where
  nativeTicker : IsNormalTicker settings.nativeTicker
  quoteTicker : IsNormalTicker settings.quoteTicker
  targetTickers : ∀ target ∈ settings.targets, IsNormalTicker target.ticker
  nativeDecimals : settings.nativeUnitDecimals ≤ 28
  targetDecimals : ∀ target ∈ settings.targets, target.decimals ≤ 28

namespace Configuration

variable {configuration accepted : Configuration}

/-- Has the configuration been loaded, from a text or from a file? -/
inductive IsLoaded (configuration : Configuration) : Prop
  | ofText {text : String} (h : ofText text = .ok configuration)
  | ofFile {contents : Option String} {environment : String → Option String}
      (h : ofFile contents environment = .ok configuration)

theorem accept_eq_ok_iff :
    configuration.accept = .ok accepted ↔ configuration.finalize = .ok accepted := by
  unfold accept
  cases configuration.finalize <;> simp

namespace IsLoaded

/-- Whatever it is loaded from, a configuration has been accepted. -/
theorem exists_finalize (h : configuration.IsLoaded) :
    ∃ decoded : Configuration, decoded.finalize = .ok configuration := by
  cases h with
  | ofText h =>
    unfold Configuration.ofText at h
    split at h
    next decoded _ => exact ⟨decoded, accept_eq_ok_iff.1 h⟩
    next => cases h
  | ofFile h =>
    unfold Configuration.ofFile at h
    split at h
    next => cases h
    next =>
      split at h
      next decoded _ => exact ⟨_, accept_eq_ok_iff.1 h⟩
      next => cases h

theorem isUsable (h : configuration.IsLoaded) : configuration.IsUsable := by
  obtain ⟨decoded, hdecoded⟩ := h.exists_finalize
  obtain ⟨husable, rfl⟩ := finalize_eq_ok_iff.1 hdecoded
  exact husable.mapTickers_normalTicker

theorem isNormal (h : configuration.IsLoaded) : configuration.gas.IsNormal := by
  have husable := h.isUsable
  obtain ⟨decoded, hdecoded⟩ := h.exists_finalize
  obtain ⟨-, rfl⟩ := finalize_eq_ok_iff.1 hdecoded
  exact {
    nativeTicker := ⟨husable.nativeTicker, normalTicker_normalTicker _⟩
    quoteTicker := ⟨husable.quoteTicker, normalTicker_normalTicker _⟩
    targetTickers := by
      intro target htarget
      obtain ⟨asset, -, rfl⟩ := List.mem_map.1 htarget
      exact ⟨husable.targetTickers _ htarget, normalTicker_normalTicker _⟩
    nativeDecimals := husable.nativeDecimals
    targetDecimals := husable.targetDecimals }

end IsLoaded
end Configuration
end FeeOracle
