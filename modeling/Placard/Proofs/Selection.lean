import Mathlib.Data.List.Forall2
import Placard.Info.Resolve

/-! # The volumes that are listed

The settings ask for some of the volumes (`Info.Selected`), and these are listed in their order,
each once (`Info.picks_listedVolumes`). -/

namespace Placard

namespace Info

/-- The volume at this place is of a wanted type, and unless repetitions are shown no wanted one
before it is on the same device. -/
def Selected (settings : AutoDisk) (disks : List DiskInfo) (index : Nat) : Prop :=
  ∃ disk, disks[index]? = some disk ∧ settings.displayTypes.intersects disk.types = true ∧
    (settings.showDuplicated = false → ∀ earlier before, earlier < index →
      disks[earlier]? = some before → settings.displayTypes.intersects before.types = true →
        before.device ≠ disk.device)

/-- The volumes at the given places, in their order and each of them once. -/
def Picks (disks : List DiskInfo) (wanted : Nat → Prop) (picked : List DiskInfo) : Prop :=
  ∃ indices : List Nat, indices.Pairwise (· < ·) ∧ (∀ index, index ∈ indices ↔ wanted index) ∧
    List.Forall₂ (fun index disk => disks[index]? = some disk) indices picked

section

variable {disk : DiskInfo} {disks picked : List DiskInfo} {wanted wanted' : Nat → Prop}

theorem picks_nil (h : ∀ index, ¬ wanted index) : Picks [] wanted [] :=
  ⟨[], .nil, fun index => by simp [h index], .nil⟩

theorem Picks.shift {indices : List Nat}
    (h : List.Forall₂ (fun index disk => disks[index]? = some disk) indices picked) :
    List.Forall₂ (fun index disk' => (disk :: disks)[index]? = some disk')
      (indices.map (· + 1)) picked := by
  rw [List.forall₂_map_left_iff]
  exact h

/-- The first volume is left out. -/
theorem Picks.skip (h : Picks disks wanted' picked) (hfirst : ¬ wanted 0)
    (hrest : ∀ index, wanted (index + 1) ↔ wanted' index) :
    Picks (disk :: disks) wanted picked := by
  obtain ⟨indices, hsorted, hmem, hpicked⟩ := h
  refine ⟨indices.map (· + 1), ?_, fun index => ?_, Picks.shift hpicked⟩
  · rw [List.pairwise_map]
    exact hsorted.imp fun hlt => Nat.add_lt_add_right hlt 1
  · cases index with
    | zero => simp [hfirst]
    | succ index => simp [hrest, hmem]

/-- The first volume is listed. -/
theorem Picks.take (h : Picks disks wanted' picked) (hfirst : wanted 0)
    (hrest : ∀ index, wanted (index + 1) ↔ wanted' index) :
    Picks (disk :: disks) wanted (disk :: picked) := by
  obtain ⟨indices, hsorted, hmem, hpicked⟩ := h
  refine ⟨0 :: indices.map (· + 1), .cons ?_ ?_, fun index => ?_, .cons rfl (Picks.shift hpicked)⟩
  · intro index hindex
    obtain ⟨_, -, rfl⟩ := List.mem_map.mp hindex
    exact Nat.succ_pos _
  · rw [List.pairwise_map]
    exact hsorted.imp fun hlt => Nat.add_lt_add_right hlt 1
  · cases index with
    | zero => simp [hfirst]
    | succ index => simp [hrest, hmem]

end

/-- All wanted volumes. -/
theorem picks_filter (p : DiskInfo → Bool) (disks : List DiskInfo) :
    Picks disks (fun index => ∃ disk, disks[index]? = some disk ∧ p disk = true)
      (disks.filter p) := by
  induction disks with
  | nil => exact picks_nil fun index => by simp
  | cons disk disks ih =>
    rw [List.filter_cons]
    split
    · next hp => exact ih.take ⟨disk, rfl, hp⟩ fun index => Iff.rfl
    · next hp => exact ih.skip (by simp [hp]) fun index => Iff.rfl

/-- The first of the wanted volumes for each device that was not seen before. -/
theorem picks_firstOfDevice (p : DiskInfo → Bool) (disks : List DiskInfo) (seen : List String) :
    Picks disks (fun index => ∃ disk, disks[index]? = some disk ∧ p disk = true ∧
        disk.device ∉ seen ∧ ∀ earlier before, earlier < index → disks[earlier]? = some before →
          p before = true → before.device ≠ disk.device)
      (firstOfDevice (disks.filter p) seen) := by
  induction disks generalizing seen with
  | nil => exact picks_nil fun index => by simp
  | cons disk disks ih =>
    -- What is before a later volume is the first one, or before it in the rest.
    have hbefore (index : Nat) (device : String) :
        (∀ earlier before, earlier < index + 1 → (disk :: disks)[earlier]? = some before →
          p before = true → before.device ≠ device) ↔
        (p disk = true → disk.device ≠ device) ∧ ∀ earlier before, earlier < index →
          disks[earlier]? = some before → p before = true → before.device ≠ device := by
      constructor
      · exact fun h => ⟨h 0 disk (Nat.succ_pos _) rfl,
          fun earlier before hlt => h (earlier + 1) before (Nat.add_lt_add_right hlt 1)⟩
      · rintro ⟨hfirst, hrest⟩ (_ | earlier) before hlt hget
        · cases hget
          exact hfirst
        · exact hrest earlier before (Nat.lt_of_add_lt_add_right hlt) hget
    rw [List.filter_cons]
    split
    · next hp =>
      rw [firstOfDevice]
      split
      · next hseen =>
        rw [List.contains_iff_mem] at hseen
        refine (ih seen).skip ?_ fun index => ?_
        · rintro ⟨_, hget, -, hnew, -⟩
          cases hget
          exact hnew hseen
        · simp only [List.getElem?_cons_succ, hbefore]
          refine exists_congr fun later => and_congr_right fun _ => and_congr_right fun _ =>
            and_congr_right fun hnew => and_iff_right fun _ hsame => hnew (hsame ▸ hseen)
      · next hseen =>
        rw [List.contains_iff_mem] at hseen
        refine (ih (disk.device :: seen)).take ⟨disk, rfl, hp, hseen, nofun⟩ fun index => ?_
        simp only [List.getElem?_cons_succ, hbefore, List.mem_cons, not_or, hp, true_implies]
        refine exists_congr fun later => and_congr_right fun _ => and_congr_right fun _ => ?_
        rw [ne_comm]
        exact ⟨fun ⟨hnew, hne, hrest⟩ => ⟨⟨hne, hnew⟩, hrest⟩,
          fun ⟨⟨hne, hnew⟩, hrest⟩ => ⟨hnew, hne, hrest⟩⟩
    · next hp =>
      refine (ih seen).skip (by simp [hp]) fun index => ?_
      simp only [List.getElem?_cons_succ, hbefore, hp, false_implies, true_and, Bool.false_eq_true]

theorem Picks.congr {disks picked : List DiskInfo} {wanted wanted' : Nat → Prop}
    (h : Picks disks wanted picked) (hiff : ∀ index, wanted' index ↔ wanted index) :
    Picks disks wanted' picked := by
  obtain ⟨indices, hsorted, hmem, hpicked⟩ := h
  exact ⟨indices, hsorted, fun index => (hmem index).trans (hiff index).symm, hpicked⟩

theorem Picks.eq_nil {disks picked : List DiskInfo} {wanted : Nat → Prop}
    (h : Picks disks wanted picked) (hnone : ∀ index, ¬ wanted index) : picked = [] := by
  obtain ⟨indices, -, hmem, hpicked⟩ := h
  cases hpicked with
  | nil => rfl
  | cons => exact absurd ((hmem _).mp List.mem_cons_self) (hnone _)

theorem Picks.subset {disks picked : List DiskInfo} {wanted : Nat → Prop}
    (h : Picks disks wanted picked) : ∀ disk ∈ picked, disk ∈ disks := by
  obtain ⟨indices, -, -, hpicked⟩ := h
  induction hpicked with
  | nil => exact nofun
  | cons hget _ ih => exact List.forall_mem_cons.mpr ⟨List.mem_of_getElem? hget, ih⟩

/-- The listed volumes are the selected ones. -/
theorem picks_listedVolumes (settings : AutoDisk) (disks : List DiskInfo) :
    Picks disks (Selected settings disks) (listedVolumes settings disks) := by
  unfold listedVolumes
  cases hduplicated : settings.showDuplicated with
  | true =>
    refine (picks_filter _ disks).congr fun index => ?_
    simp [Selected, hduplicated]
  | false =>
    refine (picks_firstOfDevice _ disks []).congr fun index => ?_
    simp [Selected, hduplicated]

end Info

end Placard
