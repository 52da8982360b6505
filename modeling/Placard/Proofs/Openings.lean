import Placard.Proofs.ColorTag

/-! # Openings one after another

The openings that are active were numbered in turn (`OpenStyles.Numbered`), and all states in which
they are so can be reached (`OpenStyles.reached_iff`). While a template is read they are closed all
at once or not at all, and new ones come on top; `OpenStyles.Leads` says that one state of the open
styles can become another one in this way. So an opening with a number from before was active before
(`OpenStyles.Leads.mem_of_lt`).

An id stands for a single opening as long as no more were made than there are ids
(`OpenStyles.Recent`, `OpenStyles.Recent.number_eq`). -/

namespace Placard.OpenStyles

/-- The active openings have increasing numbers, which were all given out. -/
structure Numbered (styles : OpenStyles) : Prop where
  increasing : styles.active.Pairwise (·.number < ·.number)
  lt_count : ∀ style ∈ styles.active, style.number < styles.count

/-- What the open styles can become: they are all closed or all kept, and others come on top. -/
structure Leads (styles later : OpenStyles) : Prop where
  count_le : styles.count ≤ later.count
  active_eq : ∃ kept new, later.active = kept ++ new ∧ (kept = [] ∨ kept = styles.active) ∧
    ∀ style ∈ new, styles.count ≤ style.number

theorem numbered_cleared (styles : OpenStyles) : styles.cleared.Numbered := ⟨.nil, nofun⟩

theorem Numbered.opened (h : Numbered styles) (span : Span) : (styles.opened span).Numbered := by
  refine ⟨List.pairwise_append.mpr ⟨h.increasing, List.pairwise_singleton .., ?_⟩, ?_⟩
  · rintro style hstyle _ hnew
    obtain rfl := List.mem_singleton.mp hnew
    exact h.lt_count style hstyle
  · refine List.forall_mem_append.mpr ⟨fun style hstyle => ?_, List.forall_mem_singleton.mpr ?_⟩
    · exact Nat.lt_succ_of_lt (h.lt_count style hstyle)
    · exact Nat.lt_succ_self _

theorem Numbered.after (h : Numbered styles) (action : ColorToken.Action) :
    (styles.after action).Numbered := by
  unfold OpenStyles.after
  split
  · exact (numbered_cleared styles).opened _
  · exact numbered_cleared styles
  · rename_i spans
    induction spans generalizing styles with
    | nil => exact h
    | cons span spans ih => exact ih (h.opened span)

namespace Leads

theorem refl (styles : OpenStyles) : Leads styles styles :=
  ⟨Nat.le_refl _, styles.active, [], (List.append_nil _).symm, .inr rfl, nofun⟩

theorem cleared (styles : OpenStyles) : Leads styles styles.cleared :=
  ⟨Nat.le_refl _, [], [], rfl, .inl rfl, nofun⟩

theorem opened (styles : OpenStyles) (span : Span) : Leads styles (styles.opened span) :=
  ⟨Nat.le_succ _, styles.active, _, rfl, .inr rfl, List.forall_mem_singleton.mpr (Nat.le_refl _)⟩

theorem trans (h : Leads first second) (h' : Leads second third) : Leads first third := by
  obtain ⟨hcount, kept, new, hactive, hkept, hnew⟩ := h
  obtain ⟨hcount', kept', new', hactive', hkept', hnew'⟩ := h'
  refine ⟨Nat.le_trans hcount hcount', ?_⟩
  have hlater (style) (hstyle : style ∈ new') : first.count ≤ style.number :=
    Nat.le_trans hcount (hnew' style hstyle)
  obtain rfl | rfl := hkept'
  · exact ⟨[], new', hactive', .inl rfl, hlater⟩
  · refine ⟨kept, new ++ new', ?_, hkept, List.forall_mem_append.mpr ⟨hnew, hlater⟩⟩
    rw [hactive', hactive, List.append_assoc]

theorem after (styles : OpenStyles) (action : ColorToken.Action) :
    Leads styles (styles.after action) := by
  unfold OpenStyles.after
  split
  · exact (cleared styles).trans (opened _ _)
  · exact cleared styles
  · rename_i spans
    induction spans generalizing styles with
    | nil => exact refl styles
    | cons span spans ih => exact (opened styles span).trans (ih _)

/-- An opening with a number from before was active before. -/
theorem mem_of_lt (h : Leads styles later) (hmem : style ∈ later.active)
    (hlt : style.number < styles.count) : style ∈ styles.active := by
  obtain ⟨-, kept, new, hactive, hkept, hnew⟩ := h
  rw [hactive] at hmem
  obtain hmem | hmem := List.mem_append.mp hmem
  · obtain rfl | rfl := hkept
    · cases hmem
    · exact hmem
  · exact absurd (hnew style hmem) (Nat.not_le.mpr hlt)

end Leads

/-! ## What can be reached -/

/-- What openings and closings lead to. -/
inductive Reached : OpenStyles → Prop
  | none : Reached {}
  | opened {styles : OpenStyles} (h : Reached styles) (span : Span) : Reached (styles.opened span)
  | closed {styles : OpenStyles} (h : Reached styles) (span : Span) : Reached (styles.closed span)
  | cleared {styles : OpenStyles} (h : Reached styles) : Reached styles.cleared

theorem Numbered.closed (h : Numbered styles) (span : Span) : (styles.closed span).Numbered := by
  have hfewer : (styles.closed span).active.Sublist styles.active := by
    have herase := (styles.active.reverse.eraseP_sublist (p := (·.span = span))).reverse
    rwa [List.reverse_reverse] at herase
  exact ⟨h.increasing.sublist hfewer, fun style hstyle => h.lt_count style (hfewer.subset hstyle)⟩

/-- An opening that is closed at once is only counted. -/
theorem closed_opened (styles : OpenStyles) (span : Span) :
    (styles.opened span).closed span = { styles with count := styles.count + 1 } := by
  have herase : (styles.opened span).active.reverse.eraseP (·.span = span) =
      styles.active.reverse := by
    rw [opened, List.reverse_append, List.reverse_singleton, List.singleton_append]
    exact List.eraseP_cons_of_pos (decide_eq_true rfl)
  rw [closed, herase, List.reverse_reverse]
  rfl

/-- The last opening is active still, or was closed, which it may have been at once. -/
theorem Numbered.reached {active : List OpenStyle} {count : Nat}
    (h : Numbered { active, count }) : Reached { active, count } := by
  induction count generalizing active with
  | zero =>
    obtain rfl : active = [] := List.eq_nil_iff_forall_not_mem.mpr fun style hstyle =>
      Nat.not_lt_zero _ (h.lt_count style hstyle)
    exact .none
  | succ count ih =>
    obtain ⟨hincreasing, hlt⟩ := h
    have hclosed (hbefore : ∀ style ∈ active, style.number < count) :
        Reached { active, count := count + 1 } := by
      have hreached := ((ih ⟨hincreasing, hbefore⟩).opened default).closed default
      rwa [closed_opened] at hreached
    obtain rfl | ⟨earlier, ⟨number, span⟩, hactive⟩ := active.eq_nil_or_concat
    · exact hclosed nofun
    · rw [List.concat_eq_append] at hactive
      subst hactive
      obtain ⟨hearlier, -, hbefore⟩ := List.pairwise_append.mp hincreasing
      have hbefore (style) (hstyle : style ∈ earlier) : style.number < number :=
        hbefore style hstyle _ (List.mem_singleton_self _)
      have hnumber : number ≤ count :=
        Nat.le_of_lt_succ (hlt _ (List.mem_append_right _ (List.mem_singleton_self _)))
      obtain rfl | hnumber := Nat.eq_or_lt_of_le hnumber
      · exact (ih ⟨hearlier, hbefore⟩).opened span
      · refine hclosed (List.forall_mem_append.mpr ⟨fun style hstyle => ?_, ?_⟩)
        · exact Nat.lt_trans (hbefore style hstyle) hnumber
        · exact List.forall_mem_singleton.mpr hnumber

/-- The states that openings and closings lead to are those in which the active openings are
numbered in turn. -/
theorem reached_iff (styles : OpenStyles) : styles.Reached ↔ styles.Numbered := by
  refine ⟨fun h => ?_, Numbered.reached⟩
  induction h with
  | none => exact ⟨.nil, nofun⟩
  | opened _ span ih => exact ih.opened span
  | closed _ span ih => exact ih.closed span
  | cleared => exact numbered_cleared _

/-! ## Ids -/

/-- The number of the oldest opening that is active, or else of the next one. -/
def oldest (styles : OpenStyles) : Nat := (styles.active.head?.map (·.number)).getD styles.count

/-- The openings that are active, and those that follow, come from `base` on. -/
structure Since (base : Nat) (styles : OpenStyles) : Prop where
  le_count : base ≤ styles.count
  le_number : ∀ style ∈ styles.active, base ≤ style.number

theorem Numbered.since_oldest (h : Numbered styles) : Since styles.oldest styles := by
  obtain ⟨active, count⟩ := styles
  obtain ⟨hincreasing, hlt⟩ := h
  cases active with
  | nil => exact ⟨Nat.le_refl _, nofun⟩
  | cons style active =>
    refine ⟨Nat.le_of_lt (hlt style List.mem_cons_self), List.forall_mem_cons.mpr ?_⟩
    exact ⟨Nat.le_refl _, fun other hother =>
      Nat.le_of_lt ((List.pairwise_cons.mp hincreasing).1 other hother)⟩

theorem Leads.since (h : Leads styles later) (hs : Since base styles) : Since base later := by
  obtain ⟨hcount, kept, new, hactive, hkept, hnew⟩ := h
  refine ⟨Nat.le_trans hs.le_count hcount, ?_⟩
  rw [hactive]
  refine List.forall_mem_append.mpr ⟨?_, fun style hstyle => ?_⟩
  · obtain rfl | rfl := hkept
    · exact nofun
    · exact hs.le_number
  · exact Nat.le_trans hs.le_count (hnew style hstyle)

/-- The openings were numbered in turn, from `base` on, and are no more than there are ids. -/
structure Recent (base : Nat) (styles : OpenStyles) : Prop extends
    Numbered styles, Since base styles where
  count_le : styles.count ≤ base + OpenStyle.idLimit

/-- Among so many openings an id stands for one only. -/
theorem Recent.number_eq (h : Recent base styles) (hstyle : style ∈ styles.active)
    (hbase : base ≤ number) (hlt : number < base + OpenStyle.idLimit)
    (hid : style.id = number % OpenStyle.idLimit) : style.number = number := by
  have hle := h.le_number style hstyle
  have hcount := Nat.lt_of_lt_of_le (h.lt_count style hstyle) h.count_le
  unfold OpenStyle.id OpenStyle.idLimit at hid
  unfold OpenStyle.idLimit at hlt hcount
  omega

/-- By openings that are closed at once the count becomes any one while a style stays open. -/
theorem repeat_closed_opened (styles : OpenStyles) (span : Span) (n : Nat) :
    Nat.repeat (fun styles => (styles.opened span).closed span) n styles =
      { styles with count := styles.count + n } := by
  induction n with
  | zero => rfl
  | succ n ih =>
    rw [Nat.repeat, ih, closed_opened]
    rfl

/-- The first opening is still active, and the next one gets any later number. -/
theorem repeat_closed_opened_first (span : Span) (n : Nat) :
    Nat.repeat (fun styles => (styles.opened span).closed span) n (({} : OpenStyles).opened span) =
      { active := [⟨0, span⟩], count := 1 + n } :=
  repeat_closed_opened _ span n

end Placard.OpenStyles
