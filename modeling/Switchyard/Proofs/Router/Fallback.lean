import Switchyard.Proofs.Router.Equality

/-! Fallbacks that are set by an index. They are kept as signed words, where negative ones
stand for none, so that half of the indices come back and the other half is clamped. -/

namespace Switchyard.Configuration

variable {c : Configuration} {index : UInt64} {data : Json}

def lastFallback : UInt64 := 0x7FFFFFFFFFFFFFFF

def clamped (index : UInt64) : UInt64 := if index ≤ lastFallback then index else lastFallback

theorem toNat_clamped (index : UInt64) :
    (clamped index).toNat = min index.toNat 0x7FFFFFFFFFFFFFFF := by
  have hlast : lastFallback.toNat = 0x7FFFFFFFFFFFFFFF := rfl
  unfold clamped
  split_ifs with h
  · have hle : index.toNat ≤ lastFallback.toNat := h
    omega
  · have hlt : lastFallback.toNat < index.toNat := Nat.lt_of_not_le h
    omega

theorem clamped_eq_self_iff : clamped index = index ↔ index ≤ lastFallback := by
  unfold clamped
  split_ifs with h
  · exact iff_of_true rfl h
  · exact iff_of_false (fun heq => h (UInt64.le_of_eq heq.symm)) h

theorem toInt_withFallback (c : Configuration) (index : UInt64) :
    (c.withFallback index).fallbackOutput.toInt = (clamped index).toNat := by
  have hbounds : 0 ≤ min (index.toNat : Int) 0x7FFFFFFFFFFFFFFF ∧
      min (index.toNat : Int) 0x7FFFFFFFFFFFFFFF < 0x8000000000000000 := by
    omega
  have hkept : (c.withFallback index).fallbackOutput.toInt =
      min (index.toNat : Int) 0x7FFFFFFFFFFFFFFF :=
    Int64.toInt_ofInt_of_le (Int.le_trans (by decide) hbounds.1) hbounds.2
  rw [hkept, toNat_clamped]
  omega

theorem fallback_withFallback (c : Configuration) (index : UInt64) :
    (c.withFallback index).fallback = some (clamped index) := by
  rw [fallback, toInt_withFallback, if_pos (Int.natCast_nonneg _), Int.toNat_natCast,
    UInt64.ofNat_toNat]

/-- What matches nothing goes to the fallback that was set last, as far as its index fits. -/
theorem route_withFallback (h : ∀ m, ¬ c.MatchesAt data m) :
    (c.withFallback index).route data = [clamped index] ∧
      ((c.withFallback index).route data = [index] ↔ index ≤ lastFallback) := by
  -- matching does not look at the fallback
  have hnone : ∀ m, ¬ (c.withFallback index).MatchesAt data m := h
  have hroute : (c.withFallback index).route data = [clamped index] := by
    rw [route_of_not_matchesAt hnone, fallback_withFallback, Option.toList_some]
  refine ⟨hroute, ?_⟩
  rw [hroute, ← clamped_eq_self_iff, List.singleton_inj]

theorem not_matchesAt_unrouted (m : Match) : ¬ unrouted.MatchesAt .null m := by
  rintro ⟨v, position, r, hv, hr, hequal, -⟩
  cases hv
  obtain rfl := List.mem_singleton.mp (List.mem_of_getElem? hr)
  revert hequal
  decide

theorem route_withFallback_unrouted :
    (∀ m, ¬ unrouted.MatchesAt .null m) ∧
      (unrouted.withFallback 0x7FFFFFFFFFFFFFFF).route .null = [0x7FFFFFFFFFFFFFFF] ∧
      (unrouted.withFallback 0xFFFFFFFFFFFFFFFF).route .null ≠ [0xFFFFFFFFFFFFFFFF] :=
  ⟨not_matchesAt_unrouted, (route_withFallback not_matchesAt_unrouted).2.mpr (by decide),
    fun h => absurd ((route_withFallback not_matchesAt_unrouted).2.mp h) (by decide)⟩

theorem not_route_withFallback_beyond :
    ¬ ∀ (c : Configuration) (index : UInt64) (data : Json), (∀ m, ¬ c.MatchesAt data m) →
      (c.withFallback index).route data = [index] := by
  intro h
  have hroute := h (ofRules []) 0x8000000000000000 .null fun m => by
    rintro ⟨position, r, hr, -⟩
    cases hr
  revert hroute
  decide

end Switchyard.Configuration
