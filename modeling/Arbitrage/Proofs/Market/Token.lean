import Arbitrage.Market.Token

/-!
# The three tokens
-/

namespace Arbitrage

namespace Tokens

/-- No two of the three tokens are the same, so that each has a number of its own in a graph of the
vault tokens. -/
structure Distinct (t : Tokens) : Prop where
  gem_ne_skr : t.gem ≠ t.skr
  gem_ne_sai : t.gem ≠ t.sai
  skr_ne_sai : t.skr ≠ t.sai

variable {t : Tokens} {token : Address} {id : AssetId} {asset : Asset}

theorem Distinct.nodup (distinct : t.Distinct) : (t.assets.map Asset.address).Nodup := by
  obtain ⟨h₁, h₂, h₃⟩ := distinct
  simp [assets, all, h₁, h₂, h₃]

/-- The token with a number is the one found at it. -/
theorem address_of_index? (index : t.index? token = some id)
    (listed : t.assets[id]? = some asset) : asset.address = token := by
  obtain ⟨bound, same, -⟩ := List.findIdx?_eq_some_iff_getElem.mp index
  have named : t.assets[id]? = some ⟨t.all[id].1, t.all[id].2⟩ := by
    simp [assets, List.getElem?_eq_getElem bound]
  rw [named] at listed
  cases listed
  simpa using same

/-- The number of a token is its place among the assets. -/
theorem index?_eq_some_iff (distinct : t.Distinct) :
    t.index? token = some id ↔ (t.assets[id]?).map Asset.address = some token := by
  constructor
  · intro index
    obtain ⟨bound, -⟩ := List.findIdx?_eq_some_iff_getElem.mp index
    have inside : id < t.assets.length := by simpa [assets] using bound
    have listed : t.assets[id]? = some t.assets[id] := List.getElem?_eq_getElem inside
    rw [listed, Option.map_some, address_of_index? index listed]
  · intro listed
    obtain ⟨asset, found, rfl⟩ := Option.map_eq_some_iff.mp listed
    obtain ⟨bound, rfl⟩ := List.getElem?_eq_some_iff.mp found
    refine List.findIdx?_eq_some_iff_getElem.mpr
      ⟨by simpa [assets] using bound, by simp [assets], ?_⟩
    intro j before same
    have apart := List.pairwise_iff_getElem.mp distinct.nodup j id
      (by simpa using Nat.lt_trans before bound) (by simpa using bound) before
    exact apart (by simpa [assets] using same)

theorem mem_of_index? (index : t.index? token = some id) :
    token = t.gem ∨ token = t.skr ∨ token = t.sai := by
  obtain ⟨bound, same, -⟩ := List.findIdx?_eq_some_iff_getElem.mp index
  have listed : t.all[id] ∈ t.all := List.getElem_mem bound
  rw [beq_iff_eq] at same
  rw [← same]
  generalize t.all[id] = entry at listed
  simp only [all, List.mem_cons, List.not_mem_nil, or_false] at listed
  rcases listed with rfl | rfl | rfl <;> simp

end Tokens

theorem Order.isLive_iff {order : Order} :
    order.isLive = true ↔ order.pay.raw ≠ 0 ∧ order.buy.raw ≠ 0 := by
  simp [isLive, Amount.isZero]

end Arbitrage
