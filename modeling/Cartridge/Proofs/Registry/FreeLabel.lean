import Cartridge.Export.Registry
import Mathlib.Data.Finset.Card
import Mathlib.Data.List.Basic

/-!
Choosing a label that no record has yet. The search through numbered labels
ends within as many steps as there are entries, because the numbered forms of
one label are all different.
-/

namespace Cartridge.Text

/-- If one of the candidates that are tried is free, the first free one is
chosen. -/
theorem fresh_eq_first {taken : String → Bool} {candidate : Nat → String}
    {n tries : Nat} (hfree : ∃ i ≤ tries, taken (candidate (n + i)) = false) :
    ∃ m, n ≤ m ∧ fresh taken candidate n tries = candidate m ∧
      taken (candidate m) = false ∧ ∀ k, n ≤ k → k < m → taken (candidate k) = true := by
  induction tries generalizing n with
  | zero =>
      obtain ⟨i, hi, hfree⟩ := hfree
      obtain rfl : i = 0 := by omega
      exact ⟨n, le_rfl, rfl, hfree, by omega⟩
  | succ tries ih =>
      rw [fresh]
      split
      · next htaken =>
          have hnext : ∃ i ≤ tries, taken (candidate (n + 1 + i)) = false := by
            obtain ⟨i, hi, hfree⟩ := hfree
            cases i with
            | zero =>
                rw [Nat.add_zero, htaken] at hfree
                cases hfree
            | succ i => exact ⟨i, by omega, by rwa [Nat.add_assoc, Nat.add_comm 1]⟩
          obtain ⟨m, hm, hfresh, hfree, hbelow⟩ := ih hnext
          refine ⟨m, by omega, hfresh, hfree, fun k hk hkm => ?_⟩
          rcases Nat.eq_or_lt_of_le hk with rfl | hk
          · exact htaken
          · exact hbelow k hk hkm
      · next htaken => exact ⟨n, le_rfl, rfl, by simpa using htaken, by omega⟩

theorem decimal_injective : Function.Injective decimal := by
  intro a b h
  have hread := readDecimal?_decimal a
  rw [h, readDecimal?_decimal] at hread
  exact (Option.some.inj hread).symm

theorem append_decimal_injective (base : String) :
    Function.Injective fun n => base ++ String.ofList (decimal n) := by
  intro a b h
  have hlist := congrArg String.toList h
  simp only [String.toList_append, String.toList_ofList] at hlist
  exact decimal_injective (List.append_cancel_left hlist)

/-- Of one more candidates than there are names taken, one is free. -/
theorem exists_free (taken : List String) {candidate : Nat → String}
    (hinj : Function.Injective candidate) (n : Nat) :
    ∃ i ≤ taken.length, candidate (n + i) ∉ taken := by
  by_contra! htaken
  have hsub : (Finset.range (taken.length + 1)).image (fun i => candidate (n + i)) ⊆
      taken.toFinset := by
    intro name hname
    obtain ⟨i, hi, rfl⟩ := Finset.mem_image.1 hname
    rw [List.mem_toFinset]
    exact htaken i (Nat.lt_succ_iff.1 (Finset.mem_range.1 hi))
  have hdistinct : Function.Injective fun i => candidate (n + i) :=
    fun _ _ h => Nat.add_left_cancel (hinj h)
  have hcard := Finset.card_le_card hsub
  rw [Finset.card_image_of_injective _ hdistinct, Finset.card_range] at hcard
  have hlength := List.toFinset_card_le taken
  omega

end Cartridge.Text

namespace Cartridge.Export.Registry

theorem isTaken_iff {r : Registry} {label : String} :
    r.isTaken label = true ↔ label ∈ r.entries.map Entry.label := by
  simp [isTaken]

/-- Of one more numbered labels than there are entries, one is free. -/
theorem exists_numbered_free (r : Registry) (label : String) :
    ∃ i ≤ r.entries.length, r.isTaken (numbered label (2 + i)) = false := by
  obtain ⟨i, hi, hfree⟩ := Text.exists_free (r.entries.map Entry.label)
    (Text.append_decimal_injective (label ++ "_")) 2
  rw [List.length_map] at hi
  exact ⟨i, hi, by rwa [← Bool.not_eq_true, isTaken_iff]⟩

theorem freeLabel_of_free {r : Registry} {label : String}
    (h : r.isTaken label = false) : r.freeLabel label = label := by
  rw [freeLabel, h, if_neg Bool.false_ne_true]

/-- A label that is taken gets the least number that makes it free. -/
theorem freeLabel_of_taken {r : Registry} {label : String}
    (h : r.isTaken label = true) :
    ∃ n, 2 ≤ n ∧ r.freeLabel label = numbered label n ∧
      r.isTaken (numbered label n) = false ∧
      ∀ m, 2 ≤ m → m < n → r.isTaken (numbered label m) = true := by
  rw [freeLabel, if_pos h]
  exact Text.fresh_eq_first (r.exists_numbered_free label)

theorem isTaken_freeLabel (r : Registry) (label : String) :
    r.isTaken (r.freeLabel label) = false := by
  by_cases h : r.isTaken label = true
  · obtain ⟨n, -, hlabel, hfree, -⟩ := freeLabel_of_taken h
    rw [hlabel, hfree]
  · rw [Bool.not_eq_true] at h
    rw [freeLabel_of_free h, h]

end Cartridge.Export.Registry
