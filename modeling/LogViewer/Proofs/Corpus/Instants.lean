import Mathlib
import LogViewer.Proofs.Corpus.Order

/-! The instants of a corpus. Records with one timestamp have one instant, and those of one instant
stand next to each other, so that they are only as far apart as there are records of that instant. -/
namespace LogViewer

/-- A test that is passed on a stretch of a list is passed as often as that is long. -/
theorem sub_lt_countP_of_stretch {α : Type} {l : List α} {p : α → Bool} {i j : Nat} (hLe : j ≤ i)
    (hi : i < l.length) (h : ∀ k a, j ≤ k → k ≤ i → l[k]? = some a → p a = true) :
    i - j < l.countP p := by
  let stretch := (l.drop j).take (i - j + 1)
  have hSub : stretch.Sublist l := (List.take_sublist _ _).trans (List.drop_sublist _ _)
  have hLength : stretch.length = i - j + 1 := by
    simp [stretch]
    omega
  have hAll : ∀ a ∈ stretch, p a = true := by
    intro a ha
    obtain ⟨k, hk⟩ := List.mem_iff_getElem?.mp ha
    simp only [stretch, List.getElem?_take, List.getElem?_drop] at hk
    split at hk
    · exact h (j + k) a (by omega) (by omega) hk
    · cases hk
  calc i - j + 1
      = stretch.countP p := by rw [List.countP_eq_length.mpr hAll, hLength]
    _ ≤ l.countP p := hSub.countP_le

theorem Becomes.instant?_eq {dating : Option (Option String)} {r : Record}
    (h : Becomes dating (.ok (some (.record r)))) :
    Timestamp.instant? r.timestamp = .ok (some r.instant) := by
  cases h with
  | undated _ hRecord => cases hRecord _ rfl
  | record hInstant hTimestamp => rw [hTimestamp, hInstant]

variable {ν : Type} [Payload ν] {settings : Settings} {document : Document ν}

/-- A record has the instant that its timestamp names. -/
theorem IsReadAt.instant?_eq {r : Record} {i : Nat} (h : IsReadAt settings document r i) :
    Timestamp.instant? r.timestamp = .ok (some r.instant) := by
  unfold IsReadAt at h
  split at h
  · obtain ⟨-, hit, -, hOutcome⟩ := h
    have hBecomes := becomes_outcomeOfHit hit i
    rw [hOutcome] at hBecomes
    exact hBecomes.instant?_eq
  · obtain ⟨p, -, hOutcome⟩ := h
    have hBecomes := becomes_outcomeOfVisit? document.containers p
    rw [hOutcome] at hBecomes
    exact hBecomes.instant?_eq

namespace Corpus.IsInOrder

variable {corpus : Corpus} (h : corpus.IsInOrder settings document)

include h

theorem instant?_eq {r : Record} (hr : r ∈ corpus.records) :
    Timestamp.instant? r.timestamp = .ok (some r.instant) := by
  obtain ⟨numbered, hMap, hRead, -⟩ := h.numbered
  rw [← hMap] at hr
  obtain ⟨⟨r, i⟩, hMem, rfl⟩ := List.mem_map.mp hr
  exact ((hRead r i).mp hMem).instant?_eq

theorem instant_eq_of_timestamp_eq {r s : Record} (hr : r ∈ corpus.records)
    (hs : s ∈ corpus.records) (hSame : r.timestamp = s.timestamp) : r.instant = s.instant := by
  have hInstants := (h.instant?_eq hr).symm.trans (hSame ▸ h.instant?_eq hs)
  exact Option.some_inj.mp (Except.ok.inj hInstants)

theorem pairwise_instant : corpus.records.Pairwise fun r s => r.instant ≤ s.instant := by
  obtain ⟨numbered, hMap, -, hSorted⟩ := h.numbered
  rw [← hMap, List.pairwise_map]
  refine hSorted.imp fun hBefore => ?_
  rcases hBefore with hLt | ⟨hEq, -⟩
  · exact hLt.le
  · exact hEq.le

theorem instant_le {r s : Record} {i j : Nat} (hi : corpus.records[i]? = some r)
    (hj : corpus.records[j]? = some s) (hLe : j ≤ i) : s.instant ≤ r.instant := by
  rcases hLe.eq_or_lt with rfl | hLt
  · obtain rfl := Option.some_inj.mp (hj.symm.trans hi)
    exact le_rfl
  · obtain ⟨hiLt, rfl⟩ := List.getElem?_eq_some_iff.mp hi
    obtain ⟨hjLt, rfl⟩ := List.getElem?_eq_some_iff.mp hj
    exact List.pairwise_iff_getElem.mp h.pairwise_instant _ _ _ _ hLt

/-- Records between two of one instant have that instant too, so there are enough of them to reach
from the one to the other. -/
theorem sub_lt_countP_instant {r s : Record} {i j : Nat} (hi : corpus.records[i]? = some r)
    (hj : corpus.records[j]? = some s) (hLe : j ≤ i) (hSame : s.instant = r.instant) :
    i - j < corpus.records.countP (·.instant == r.instant) := by
  refine sub_lt_countP_of_stretch hLe (List.getElem?_eq_some_iff.mp hi).1 fun k q hjk hki hk => ?_
  have hFrom := h.instant_le hk hj hjk
  have hTo := h.instant_le hi hk hki
  rw [beq_iff_eq]
  omega

end Corpus.IsInOrder

end LogViewer
