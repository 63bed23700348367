import Mathlib.Algebra.BigOperators.Group.List.Basic
import Mathlib.Algebra.Order.BigOperators.Group.List
import Mathlib.Algebra.Order.Ring.Nat

/-!
# Tallies

A list of keyed amounts is added up into an ordered map, one entry at a time: a key that is there gets
the amount added, and a key that is not there is put in.  The map then holds exactly the keys that
occur, each with the sum of its amounts, so the order of the list does not matter.

The weighted mean of positive weights lies between two of the values that it is a mean of.
-/

namespace BifrostRelayer

namespace Tally

open Std

variable {κ ν : Type}

/-! ### Adding up -/

section Amounts

variable [DecidableEq κ]

/-- The amounts of a list at one key. -/
def amountsAt (entries : List (κ × ν)) (key : κ) : List ν :=
  (entries.filter fun entry => entry.1 = key).map Prod.snd

lemma amountsAt_append (entries entries' : List (κ × ν)) (key : κ) :
    amountsAt (entries ++ entries') key = amountsAt entries key ++ amountsAt entries' key := by
  simp [amountsAt]

end Amounts

variable [Ord κ] [TransOrd κ] [LawfulEqOrd κ]

lemma isEmpty_iff_getElem? {β : Type} (m : ExtTreeMap κ β) :
    m.isEmpty = true ↔ ∀ key : κ, m[key]? = none := by
  rw [ExtTreeMap.isEmpty_iff]
  constructor
  · rintro rfl key
    exact ExtTreeMap.getElem?_empty
  · intro hnone
    apply ExtTreeMap.ext_getElem?
    intro key
    rw [hnone key, ExtTreeMap.getElem?_empty]

section Deposit

variable [Add ν]

/-- One amount added to its key. -/
def deposit (tally : ExtTreeMap κ ν) (entry : κ × ν) : ExtTreeMap κ ν :=
  match tally[entry.1]? with
  | some total => tally.insert entry.1 (total + entry.2)
  | none => tally.insert entry.1 entry.2

lemma getElem?_deposit_self (tally : ExtTreeMap κ ν) (key : κ) (amount : ν) :
    (deposit tally (key, amount))[key]? =
      some (match tally[key]? with
        | some total => total + amount
        | none => amount) := by
  unfold deposit
  cases tally[key]? <;> simp

lemma getElem?_deposit_of_ne (tally : ExtTreeMap κ ν) {entry : κ × ν} {key : κ}
    (hne : entry.1 ≠ key) : (deposit tally entry)[key]? = tally[key]? := by
  unfold deposit
  cases tally[entry.1]? <;> simp [ExtTreeMap.getElem?_insert, hne]

end Deposit

variable [AddCommMonoid ν]

/-- A running total and the amounts that are still to come. -/
def totalOf : Option ν → List ν → Option ν
  | none, [] => none
  | none, amount :: amounts => some (amount + amounts.sum)
  | some total, amounts => some (total + amounts.sum)

lemma totalOf_none_eq_none {amounts : List ν} : totalOf none amounts = none ↔ amounts = [] := by
  cases amounts <;> simp [totalOf]

lemma totalOf_none {amounts : List ν} (hne : amounts ≠ []) :
    totalOf none amounts = some amounts.sum := by
  cases amounts with
  | nil => exact absurd rfl hne
  | cons amount amounts => simp [totalOf]

variable [DecidableEq κ]

/-- Each key ends with its first total plus the amounts that the list holds for it. -/
theorem getElem?_foldl_deposit (entries : List (κ × ν)) (tally : ExtTreeMap κ ν) (key : κ) :
    (entries.foldl deposit tally)[key]? = totalOf tally[key]? (amountsAt entries key) := by
  induction entries generalizing tally with
  | nil =>
    cases htotal : tally[key]? <;> simp [htotal, amountsAt, totalOf]
  | cons entry entries ih =>
    rw [List.foldl_cons, ih]
    by_cases hkey : entry.1 = key
    · subst hkey
      rw [getElem?_deposit_self tally entry.1 entry.2]
      have hcons : amountsAt (entry :: entries) entry.1 = entry.2 :: amountsAt entries entry.1 := by
        simp [amountsAt]
      rw [hcons]
      cases tally[entry.1]? with
      | none => rfl
      | some total => simp [totalOf, add_assoc]
    · have hskip : amountsAt (entry :: entries) key = amountsAt entries key := by
        simp [amountsAt, hkey]
      rw [getElem?_deposit_of_ne tally hkey, hskip]

/-- A tally from nothing holds the sums of the keys that occur. -/
theorem getElem?_tally (entries : List (κ × ν)) (key : κ) :
    (entries.foldl deposit (∅ : ExtTreeMap κ ν))[key]? = totalOf none (amountsAt entries key) := by
  rw [getElem?_foldl_deposit, ExtTreeMap.getElem?_empty]

/-- The order of the list does not matter. -/
theorem foldl_deposit_perm {entries entries' : List (κ × ν)} (hperm : entries.Perm entries') :
    entries.foldl deposit (∅ : ExtTreeMap κ ν) = entries'.foldl deposit ∅ := by
  apply ExtTreeMap.ext_getElem?
  intro key
  rw [getElem?_tally, getElem?_tally]
  have hamounts : (amountsAt entries key).Perm (amountsAt entries' key) :=
    (hperm.filter _).map _
  by_cases hnil : amountsAt entries key = []
  · rw [hnil] at hamounts ⊢
    rw [hamounts.nil_eq]
  · have hnil' : amountsAt entries' key ≠ [] := fun h => hnil (by
      rw [h] at hamounts
      exact hamounts.eq_nil)
    rw [totalOf_none hnil, totalOf_none hnil', hamounts.sum_eq]

/-- The entries of a map at one key. -/
lemma filter_toList {β : Type} (m : ExtTreeMap κ β) (key : κ) :
    m.toList.filter (fun entry => entry.1 = key) = (m[key]?.map fun v => (key, v)).toList := by
  have hnodup : m.toList.Nodup :=
    m.distinct_keys_toList.imp fun hne heq => hne (by rw [heq, ReflOrd.compare_self])
  have hmem (entry : κ × β) : entry ∈ m.toList ↔ m[entry.1]? = some entry.2 :=
    ExtTreeMap.mem_toList_iff_getElem?_eq_some
  cases hget : m[key]? with
  | none =>
    rw [Option.map_none, Option.toList_none, List.filter_eq_nil_iff]
    intro entry hentry
    simp only [decide_eq_true_eq]
    rintro rfl
    rw [hmem, hget] at hentry
    cases hentry
  | some v =>
    rw [Option.map_some, Option.toList_some, ← List.perm_singleton]
    refine (List.perm_ext_iff_of_nodup (hnodup.filter _) (by simp)).mpr ?_
    rintro ⟨key', v'⟩
    rw [List.mem_filter, hmem, List.mem_singleton, decide_eq_true_eq, Prod.mk.injEq]
    constructor
    · rintro ⟨hget', rfl⟩
      exact ⟨rfl, Option.some.inj (hget'.symm.trans hget)⟩
    · rintro ⟨rfl, rfl⟩
      exact ⟨hget, rfl⟩

/-! ### Weighted means -/

variable {α : Type}

/-- A common upper bound of the values bounds the weighted sum. -/
lemma sum_mul_le (value weight : α → ℕ) (bound : ℕ) (l : List α) (hle : ∀ a ∈ l, value a ≤ bound) :
    (l.map fun a => value a * weight a).sum ≤ bound * (l.map weight).sum := by
  induction l with
  | nil => simp
  | cons a l ih =>
    have hhead : value a * weight a ≤ bound * weight a :=
      Nat.mul_le_mul_right _ (hle a (by simp))
    have htail := ih fun b hb => hle b (by simp [hb])
    simp only [List.map_cons, List.sum_cons, Nat.mul_add]
    omega

lemma le_sum_mul (value weight : α → ℕ) (bound : ℕ) (l : List α) (hle : ∀ a ∈ l, bound ≤ value a) :
    bound * (l.map weight).sum ≤ (l.map fun a => value a * weight a).sum := by
  induction l with
  | nil => simp
  | cons a l ih =>
    have hhead : bound * weight a ≤ value a * weight a :=
      Nat.mul_le_mul_right _ (hle a (by simp))
    have htail := ih fun b hb => hle b (by simp [hb])
    simp only [List.map_cons, List.sum_cons, Nat.mul_add]
    omega

section Mean

variable (value weight : α → ℕ) {l : List α}

/-- Some value is at most the mean. -/
theorem exists_le_mean (htotal : 0 < (l.map weight).sum) :
    ∃ a ∈ l, value a ≤ (l.map fun a => value a * weight a).sum / (l.map weight).sum := by
  by_contra! habove
  have hsum := le_sum_mul value weight _ l habove
  exact absurd ((Nat.le_div_iff_mul_le htotal).mpr hsum) (Nat.not_succ_le_self _)

/-- Some value is at least the mean. -/
theorem exists_mean_le (htotal : 0 < (l.map weight).sum) :
    ∃ a ∈ l, (l.map fun a => value a * weight a).sum / (l.map weight).sum ≤ value a := by
  by_contra! hbelow
  obtain ⟨a, ha⟩ : ∃ a, a ∈ l := by
    apply List.exists_mem_of_ne_nil
    rintro rfl
    simp at htotal
  -- Every value is below the mean, so the mean is positive and its predecessor is a bound.
  have hpos := Nat.zero_lt_of_lt (hbelow a ha)
  have hsum := sum_mul_le value weight _ l fun b hb => Nat.le_sub_one_of_lt (hbelow b hb)
  have hmean := Nat.div_le_of_le_mul ((Nat.mul_comm _ _).symm ▸ hsum)
  omega

end Mean

end Tally

end BifrostRelayer
