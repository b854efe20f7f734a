import Mathlib
import Plugboard.Registry.Basic
/-!
# The verdict on a registry's health

The verdict on per-status counts adds the counts up, and doubles the count of inactive
registrations, in machine words, which wrap around at `wordRange`. So the total is the sum of the
counts modulo a word (`RegistryHealth.total_ofCounts`), and as long as neither the sum nor the
doubled inactive count reaches a word, the verdict is the one the counts call for over the
natural numbers (`RegistryHealth.verdictOver`): unhealthy when more than half the registrations
are inactive, degraded when some but at most half are, healthy when none are
(`RegistryHealth.verdict_exact_within_word`).

A registry's own counts add up to its number of registrations, so its verdict is exact as long as
it holds fewer than half a word of them (`Registry.health_verdict_exact`). Counts given from
outside may be larger, and then the verdict can be wrong: a lone count of `2^63` inactive
registrations doubles to zero and reads as degraded (`RegistryHealth.doubled_inactive_wraps`).
-/

namespace Plugboard

namespace RegistryHealth

variable {counts : List (Status × Nat)} {total inactive : Nat}

/-- The sum of the counts, over the natural numbers. -/
def countSum (counts : List (Status × Nat)) : Nat := (counts.map (·.2)).sum

/-- The count of inactive registrations: the first one given for that status, or none. -/
def inactiveCount (counts : List (Status × Nat)) : Nat :=
  ((counts.find? (·.1 == .inactive)).map (·.2)).getD 0

/-- The verdict on `total` registrations of which `inactive` are inactive, over the natural
numbers: unhealthy when more than half are inactive, degraded when any are, healthy otherwise. -/
def verdictOver (total inactive : Nat) : Verdict :=
  if total < 2 * inactive then .unhealthy
  else if 0 < inactive then .degraded
  else .healthy

theorem verdictOver_eq_unhealthy_iff :
    verdictOver total inactive = .unhealthy ↔ total < 2 * inactive := by
  unfold verdictOver
  split_ifs with hu hi
  · exact iff_of_true rfl hu
  · exact iff_of_false (by simp) hu
  · exact iff_of_false (by simp) hu

theorem verdictOver_eq_degraded_iff :
    verdictOver total inactive = .degraded ↔ 0 < inactive ∧ 2 * inactive ≤ total := by
  unfold verdictOver
  split_ifs with hu hi
  · exact iff_of_false (by simp) (by omega)
  · exact iff_of_true rfl ⟨hi, by omega⟩
  · exact iff_of_false (by simp) (by omega)

theorem verdictOver_eq_healthy_iff (hle : inactive ≤ total) :
    verdictOver total inactive = .healthy ↔ inactive = 0 := by
  unfold verdictOver
  split_ifs with hu hi
  · exact iff_of_false (by simp) (by omega)
  · exact iff_of_false (by simp) (by omega)
  · exact iff_of_true rfl (by omega)

/-- Adding counts up in a word, from a word, is adding them up and wrapping once at the end. -/
theorem foldl_add_mod (a : Nat) :
    ∀ counts : List (Status × Nat),
      counts.foldl (fun acc c => (acc + c.2) % wordRange) (a % wordRange) =
        (a + countSum counts) % wordRange
  | [] => by simp [countSum]
  | c :: cs => by
    rw [List.foldl_cons, Nat.mod_add_mod, foldl_add_mod (a + c.2) cs]
    simp only [countSum, List.map_cons, List.sum_cons, Nat.add_assoc]

/-- The total is the sum of the counts, wrapped to a word. -/
theorem total_ofCounts (counts : List (Status × Nat)) :
    (ofCounts counts).total = countSum counts % wordRange := by
  have h := foldl_add_mod 0 counts
  rw [Nat.zero_mod, Nat.zero_add] at h
  exact h

/-- The verdict compares the doubled inactive count with the total, both wrapped to a word. -/
theorem verdict_ofCounts (counts : List (Status × Nat)) :
    (ofCounts counts).verdict =
      if countSum counts % wordRange < inactiveCount counts * 2 % wordRange then .unhealthy
      else if 0 < inactiveCount counts then .degraded
      else .healthy := by
  rw [← total_ofCounts]
  rfl

/-- The inactive count is one of the counts, so it is at most their sum. -/
theorem inactiveCount_le_countSum (counts : List (Status × Nat)) :
    inactiveCount counts ≤ countSum counts := by
  unfold inactiveCount countSum
  cases hf : counts.find? (·.1 == .inactive) with
  | none => exact Nat.zero_le _
  | some c => exact List.le_sum_of_mem (List.mem_map_of_mem (List.mem_of_find?_eq_some hf))

/-- While neither the sum nor the doubled inactive count reaches a word, nothing wraps, and the
verdict is the one over the natural numbers. -/
theorem verdict_eq_verdictOver (hsum : countSum counts < wordRange)
    (hdouble : 2 * inactiveCount counts < wordRange) :
    (ofCounts counts).verdict = verdictOver (countSum counts) (inactiveCount counts) := by
  have hdouble' : inactiveCount counts * 2 % wordRange = 2 * inactiveCount counts := by
    rw [Nat.mul_comm]
    exact Nat.mod_eq_of_lt hdouble
  rw [verdict_ofCounts, Nat.mod_eq_of_lt hsum, hdouble']
  rfl

/-- **The verdict is exact while the counts fit in a word.** For counts whose sum is below a word
and whose inactive count doubled is too, the total is their sum, and the verdict is unhealthy
exactly when more than half are inactive, degraded exactly when some but at most half are, and
healthy exactly when none are. -/
theorem verdict_exact_within_word (counts : List (Status × Nat))
    (hsum : countSum counts < wordRange) (hdouble : 2 * inactiveCount counts < wordRange) :
    (ofCounts counts).total = countSum counts ∧
    ((ofCounts counts).verdict = .unhealthy ↔ countSum counts < 2 * inactiveCount counts) ∧
    ((ofCounts counts).verdict = .degraded ↔
      0 < inactiveCount counts ∧ 2 * inactiveCount counts ≤ countSum counts) ∧
    ((ofCounts counts).verdict = .healthy ↔ inactiveCount counts = 0) := by
  rw [total_ofCounts, Nat.mod_eq_of_lt hsum, verdict_eq_verdictOver hsum hdouble]
  exact ⟨rfl, verdictOver_eq_unhealthy_iff, verdictOver_eq_degraded_iff,
    verdictOver_eq_healthy_iff (inactiveCount_le_countSum counts)⟩

/-- The counts of the registry in the library's own test: one active, two inactive. -/
theorem verdict_exact_on_two_of_three_inactive :
    let counts : List (Status × Nat) := [(.active, 1), (.inactive, 2)]
    countSum counts < wordRange ∧ 2 * inactiveCount counts < wordRange ∧
    ((ofCounts counts).total = countSum counts ∧
      ((ofCounts counts).verdict = .unhealthy ↔ countSum counts < 2 * inactiveCount counts) ∧
      ((ofCounts counts).verdict = .degraded ↔
        0 < inactiveCount counts ∧ 2 * inactiveCount counts ≤ countSum counts) ∧
      ((ofCounts counts).verdict = .healthy ↔ inactiveCount counts = 0)) :=
  ⟨by decide, by decide, verdict_exact_within_word _ (by decide) (by decide)⟩

/-- The counts `2^63` inactive registrations. -/
def halfWordInactive : List (Status × Nat) := [(.inactive, Nat.pow 2 63)]

/-- Past a word the verdict goes wrong: `2^63` inactive registrations out of `2^63` are more than
half, yet their count doubles to zero in a word, and the verdict reads degraded. -/
theorem doubled_inactive_wraps :
    countSum halfWordInactive < 2 * inactiveCount halfWordInactive ∧
    (ofCounts halfWordInactive).total = countSum halfWordInactive ∧
    (ofCounts halfWordInactive).verdict = .degraded := by
  decide

end RegistryHealth

namespace Registry

open RegistryHealth

/-- Over its statuses, a list of registrations is counted once per registration. -/
theorem sum_status_counts (rs : List Registration) :
    (Status.all.map fun s => (rs.filter (·.status == s)).length).sum = rs.length := by
  induction rs with
  | nil => simp [Status.all]
  | cons r rs ih =>
    simp only [List.filter_cons, List.length_cons]
    rw [← ih]
    cases r.status <;> simp [Status.all] <;> omega

/-- Leaving out the statuses with no registration keeps the sum. -/
theorem countSum_filter_pos (l : List (Status × Nat)) :
    countSum (l.filter (·.2 > 0)) = countSum l := by
  induction l with
  | nil => rfl
  | cons c cs ih =>
    unfold countSum at *
    rw [List.filter_cons]
    split
    · simp only [List.map_cons, List.sum_cons, ih]
    · rename_i hc
      have hzero : c.2 = 0 := by simpa using hc
      simp only [List.map_cons, List.sum_cons, ih, hzero, Nat.zero_add]

/-- A registry's counts add up to its number of registrations. -/
theorem countSum_countByStatus (r : Registry) : countSum r.countByStatus = r.plugins.length := by
  unfold countByStatus
  rw [countSum_filter_pos, countSum, List.map_map]
  exact sum_status_counts r.plugins

/-- A registry's inactive count is the number of its inactive registrations. -/
theorem inactiveCount_countByStatus (r : Registry) :
    inactiveCount r.countByStatus = (r.plugins.filter (·.status == .inactive)).length := by
  unfold inactiveCount countByStatus
  rw [List.find?_filter]
  simp only [Status.all, List.map_cons, List.map_nil, List.find?_cons, beq_iff_eq, reduceCtorEq,
    and_false, and_true, decide_false, decide_eq_true_eq, List.find?_nil]
  -- the inactive entry is found exactly when it counts any registration
  by_cases h : 0 < (r.plugins.filter (·.status == .inactive)).length
  · simp only [h, decide_true, Option.map_some, Option.getD_some]
  · simp only [h, decide_false, Option.map_none, Option.getD_none]
    omega

/-- **A registry's verdict is exact.** A registry of fewer than `2^63` registrations totals them,
and its verdict is the one over the natural numbers on them and its inactive ones. -/
theorem health_verdict_exact (r : Registry) (hsize : r.plugins.length < Nat.pow 2 63) :
    r.health.total = r.plugins.length ∧
    r.health.verdict =
      verdictOver r.plugins.length (r.plugins.filter (·.status == .inactive)).length := by
  have hword : wordRange = 2 * Nat.pow 2 63 := rfl
  have hle := inactiveCount_le_countSum r.countByStatus
  rw [countSum_countByStatus] at hle
  have hsum : countSum r.countByStatus < wordRange := by
    rw [countSum_countByStatus]
    omega
  have hdouble : 2 * inactiveCount r.countByStatus < wordRange := by omega
  unfold health
  rw [total_ofCounts, Nat.mod_eq_of_lt hsum, verdict_eq_verdictOver hsum hdouble,
    countSum_countByStatus, inactiveCount_countByStatus]
  exact ⟨rfl, rfl⟩

end Registry

end Plugboard
