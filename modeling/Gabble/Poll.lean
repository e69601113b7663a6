/-
# Polls

A poll keeps the value that was voted for last and the voters that agreed on it
one after the other.  A vote for another value starts the poll again.  Whatever
the votes are, the voters of a poll are those of a block at the end of the list of
votes in which everybody voted for the value of the poll.
-/
import Mathlib.Data.Finset.Basic
import Mathlib.Data.Finset.Dedup
import Mathlib.Data.Finset.Card

structure Poll (ι α : Type*) where
  value : Option α
  voters : Finset ι

namespace Poll

variable {ι α : Type*} [DecidableEq ι] [DecidableEq α]

/-- A vote of `ballot.1` for `ballot.2`. -/
def vote (p : Poll ι α) (ballot : ι × α) : Poll ι α :=
  if p.value = some ballot.2 then { p with voters := insert ballot.1 p.voters }
  else ⟨some ballot.2, insert ballot.1 ∅⟩

/-- The poll after a list of votes. -/
def count (ballots : List (ι × α)) : Poll ι α := ballots.foldl vote ⟨none, ∅⟩

theorem count_append_singleton (ballots : List (ι × α)) (ballot : ι × α) :
    count (ballots ++ [ballot]) = (count ballots).vote ballot := by
  rw [count, List.foldl_append]
  rfl

theorem value_vote (p : Poll ι α) (ballot : ι × α) : (p.vote ballot).value = some ballot.2 := by
  rw [vote]
  split
  · next h => exact h
  · rfl

/-- **Blocks of agreement.**  The voters of a poll are those of a block at the end
of the votes, all of them for the value of the poll. -/
theorem exists_suffix (ballots : List (ι × α)) :
    ∃ block, block <:+ ballots ∧ (∀ b ∈ block, (count ballots).value = some b.2) ∧
      (count ballots).voters = (block.map Prod.fst).toFinset := by
  induction ballots using List.reverseRecOn with
  | nil => exact ⟨[], List.suffix_refl _, (fun b hb => by cases hb), rfl⟩
  | append_singleton ballots ballot ih =>
    obtain ⟨block, ⟨before, rfl⟩, hagree, hvoters⟩ := ih
    rw [count_append_singleton]
    by_cases h : (count (before ++ block)).value = some ballot.2
    · -- the vote continues the block
      refine ⟨block ++ [ballot], ⟨before, (List.append_assoc ..).symm⟩, fun b hb => ?_, ?_⟩
      · rw [value_vote, ← h]
        rcases List.mem_append.mp hb with hb | hb
        · exact hagree b hb
        · rw [h, List.mem_singleton.mp hb]
      · rw [vote, if_pos h, hvoters]
        ext i
        simp
    · refine ⟨[ballot], List.suffix_append _ _, fun b hb => ?_, ?_⟩
      · rw [value_vote, List.mem_singleton.mp hb]
      · rw [vote, if_neg h]
        rfl

/-- Some voters took part. -/
theorem voted {ballots : List (ι × α)} {i : ι} (h : i ∈ (count ballots).voters) :
    ∃ b ∈ ballots, b.1 = i ∧ (count ballots).value = some b.2 := by
  obtain ⟨block, hsuffix, hagree, hvoters⟩ := exists_suffix ballots
  rw [hvoters, List.mem_toFinset] at h
  obtain ⟨b, hb, rfl⟩ := List.mem_map.mp h
  exact ⟨b, hsuffix.subset hb, rfl, hagree b hb⟩

end Poll
