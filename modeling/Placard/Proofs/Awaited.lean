import Placard.Proofs.Untaken

/-! # Where a template ends

Tags stand in one another like brackets: an opening asks for the delimiters of all its parts, and a
delimiter counts only where it is the next one that is asked for. `awaited` follows a text in this
way from its first character to its last, with nothing but the delimiters that it still expects.
What is left at the end of a template are the delimiters of the parts that it ends inside of, the
innermost part first, and the first of them is the one that is missed in the tree of the template
(`cutOffs_read`). -/

namespace Placard.Template

/-- The delimiters of the parts of a tag, by the character that makes a tag of a dollar sign. -/
def delimitersOf : Char → Option (List Char)
  | '<' => some ['>']
  | '\x7b' => some ['\x7d']
  | '%' => some [',', '%']
  | '[' => some [',', ',', ',', ']']
  | _ => none

/-- The delimiters that are expected behind a text, the next one first, if `expected` are before
it. -/
def awaited (expected : List Char) : List Char → List Char
  | [] => expected
  | [c] => if expected.head? = some c then expected.tail else expected
  | c :: next :: rest =>
    if expected.head? = some c then awaited expected.tail (next :: rest)
    else if c = '\\' then awaited expected rest
    else if c = '$' then
      match delimitersOf next with
      | some delimiters => awaited (delimiters ++ expected) rest
      | none => awaited expected (next :: rest)
    else awaited expected (next :: rest)

theorem opensTag_of_delimitersOf (h : delimitersOf c = some delimiters) : OpensTag (c :: rest) := by
  refine ⟨c, rest, rfl, ?_⟩
  unfold delimitersOf at h
  split at h
  · decide
  · decide
  · decide
  · decide
  · cases h

/-! ## One step -/

variable {expected : List Char}

theorem awaited_delimiter (d : Char) (outer cs : List Char) :
    awaited (d :: outer) (d :: cs) = awaited outer cs := by
  cases cs with
  | nil => exact if_pos rfl
  | cons next rest => exact if_pos rfl

theorem awaited_escaped (h : expected.head? ≠ some '\\') (c : Char) (cs : List Char) :
    awaited expected ('\\' :: c :: cs) = awaited expected cs := by
  rw [awaited, if_neg h, if_pos rfl]

theorem awaited_opening (h : expected.head? ≠ some '$')
    (hdelimiters : delimitersOf c = some delimiters) (cs : List Char) :
    awaited expected ('$' :: c :: cs) = awaited (delimiters ++ expected) cs := by
  rw [awaited, if_neg h, if_neg (by decide), if_pos rfl, hdelimiters]

theorem awaited_char (h : expected.head? ≠ some c) (hescape : c ≠ '\\')
    (hdollar : c = '$' → ¬ OpensTag cs) : awaited expected (c :: cs) = awaited expected cs := by
  cases cs with
  | nil => exact if_neg h
  | cons next rest =>
    rw [awaited, if_neg h, if_neg hescape]
    by_cases hc : c = '$'
    · rw [if_pos hc]
      cases hdelimiters : delimitersOf next with
      | none => rfl
      | some delimiters => exact absurd (opensTag_of_delimitersOf hdelimiters) (hdollar hc)
    · rw [if_neg hc]

/-! ## Parts -/

/-- A part that starts where `expected` are awaited either ends, and the others are awaited in what
is left, or the text ends in it, and what is missed is the next one that is awaited then. -/
def Leaves (expected cs cutOffs outer left : List Char) : Prop :=
  cutOffs = [] ∧ awaited expected cs = awaited outer left ∨
    ∃ d, cutOffs = [d] ∧ (awaited expected cs).head? = some d

/-- What a step does not change. -/
theorem Leaves.congr (h : Leaves expected cs cutOffs outer left)
    (heq : awaited expected' cs' = awaited expected cs) :
    Leaves expected' cs' cutOffs outer left := by
  unfold Leaves at h ⊢
  rwa [heq]

/-- One part after another. -/
theorem Leaves.append (h : Leaves expected cs first mid rest)
    (hclosed : isClosed = true ↔ first = [])
    (h' : isClosed = true → Leaves mid rest second outer left) :
    Leaves expected cs (first ++ if isClosed then second else []) outer left := by
  obtain ⟨rfl, heq⟩ | ⟨d, rfl, hhead⟩ := h
  · have htrue : isClosed = true := hclosed.mpr rfl
    rw [if_pos htrue]
    exact (h' htrue).congr heq
  · have hfalse : isClosed ≠ true := fun htrue => by cases hclosed.mp htrue
    rw [if_neg hfalse]
    exact .inr ⟨d, rfl, hhead⟩

/-- The parts are closed if nothing is missed in them. -/
theorem closed_append (h : a = true ↔ first = []) (h' : a = true → (b = true ↔ second = [])) :
    (a && b) = true ↔ first ++ (if a then second else []) = [] := by
  cases a with
  | true =>
    rw [h.mp rfl, Bool.true_and]
    exact h' rfl
  | false =>
    have hne : first ≠ [] := fun hnil => by cases h.mpr hnil
    rw [Bool.false_and]
    exact ⟨nofun, fun hnil => absurd (List.append_eq_nil_iff.mp hnil).1 hne⟩

theorem head?_eq_some_iff (hnone : stop = none → outer = []) :
    (stop.toList ++ outer).head? = some c ↔ stop = some c := by
  cases stop with
  | none =>
    obtain rfl := hnone rfl
    exact ⟨nofun, nofun⟩
  | some d => exact Iff.rfl

/-- What is missed in a body, and that it is closed just if nothing is. -/
structure BodyLeaves (stop : Option Char) (cs : List Char) (body : Body) (left : List Char) :
    Prop where
  leaves (outer : List Char) : (stop = none → outer = []) →
    Leaves (stop.toList ++ outer) cs body.cutOffs outer left
  isClosed_iff : stop.isSome → (body.isClosed = true ↔ body.cutOffs = [])

/-- The same of a tag, after the character that opens it. -/
def TagLeaves (cs : List Char) (tag : Tag) (left : List Char) : Prop :=
  ∃ c rest delimiters, cs = c :: rest ∧ delimitersOf c = some delimiters ∧
    (∀ outer, Leaves (delimiters ++ outer) rest tag.cutOffs outer left) ∧
    (tag.isClosed = true ↔ tag.cutOffs = [])

/-- Behind a tag that was cut off nothing else is missed. -/
theorem cutOffs_of_tag (ht : ReadsTag cs tag after)
    (h : ReadsBody stop (!tag.isClosed) after body left) :
    (Body.tag tag length body).cutOffs =
        tag.cutOffs ++ (if tag.isClosed then body.cutOffs else []) ∧
      (stop.isSome → (Body.tag tag length body).isClosed = (tag.isClosed && body.isClosed)) := by
  cases hclosed : tag.isClosed with
  | true => exact ⟨rfl, fun _ => rfl⟩
  | false =>
    obtain ⟨rfl, -⟩ := eq_done_of_open ht h hclosed
    cases stop with
    | none => exact ⟨rfl, fun h => absurd h Bool.false_ne_true⟩
    | some d => exact ⟨rfl, fun _ => rfl⟩

mutual

theorem leaves_of_readsBody : ReadsBody stop cutOff cs body left → cutOff = false →
    BodyLeaves stop cs body left
  | .atEnd, hwhole => by
    rw [hwhole]
    cases stop with
    | none => exact ⟨fun _ _ => .inl ⟨rfl, rfl⟩, nofun⟩
    | some d => exact ⟨fun _ _ => .inr ⟨d, rfl, rfl⟩, fun _ => ⟨nofun, nofun⟩⟩
  | .delimiter, _ =>
    ⟨fun outer _ => .inl ⟨rfl, awaited_delimiter _ outer _⟩, fun _ => ⟨fun _ => rfl, fun _ => rfl⟩⟩
  | .backslash hd, _ => by
    cases stop with
    | none =>
      refine ⟨fun outer hnone => ?_, nofun⟩
      obtain rfl := hnone rfl
      exact .inl ⟨rfl, rfl⟩
    | some d =>
      refine ⟨fun outer _ => .inr ⟨d, rfl, ?_⟩, fun _ => ⟨nofun, nofun⟩⟩
      rw [awaited, if_neg]
      · rfl
      · exact hd
  | .escaped hd h, _ => by
    have hrest := leaves_of_readsBody h rfl
    refine ⟨fun outer hnone => (hrest.leaves outer hnone).congr ?_, hrest.isClosed_iff⟩
    exact awaited_escaped (mt (head?_eq_some_iff hnone).mp hd) _ _
  | .char hc hescape hdollar h, _ => by
    have hrest := leaves_of_readsBody h rfl
    refine ⟨fun outer hnone => (hrest.leaves outer hnone).congr ?_, hrest.isClosed_iff⟩
    exact awaited_char (mt (head?_eq_some_iff hnone).mp hc) hescape hdollar
  | .tag hd ht h, _ => by
    obtain ⟨c, front, delimiters, rfl, hdelimiters, htag, hclosed⟩ := leaves_of_readsTag ht
    obtain ⟨hcutOffs, hand⟩ := cutOffs_of_tag ht h
    have hrest htrue := leaves_of_readsBody h ((Bool.not_eq_false' _).mpr htrue)
    refine ⟨fun outer hnone => ?_, fun hsome => ?_⟩
    · rw [hcutOffs]
      have hopening := awaited_opening (mt (head?_eq_some_iff hnone).mp hd) hdelimiters front
      have happend := (htag (stop.toList ++ outer)).append hclosed fun htrue =>
        (hrest htrue).leaves outer hnone
      exact happend.congr hopening
    · rw [hcutOffs, hand hsome]
      exact closed_append hclosed fun htrue => (hrest htrue).isClosed_iff hsome

theorem leaves_of_readsTag : ReadsTag cs tag left → TagLeaves cs tag left
  | .info h => by
    have hname := leaves_of_readsBody h rfl
    exact ⟨_, _, _, rfl, rfl, fun outer => hname.leaves outer nofun, hname.isClosed_iff rfl⟩
  | .color h => by
    have htoken := leaves_of_readsBody h rfl
    exact ⟨_, _, _, rfl, rfl, fun outer => htoken.leaves outer nofun, htoken.isClosed_iff rfl⟩
  | .percentage h₁ h₂ => by
    have h₁' := leaves_of_readsBody h₁ rfl
    have h₂' htrue := leaves_of_readsBody h₂ ((Bool.not_eq_false' _).mpr htrue)
    refine ⟨_, _, _, rfl, rfl, fun outer => ?_, ?_⟩
    · exact (h₁'.leaves ('%' :: outer) nofun).append (h₁'.isClosed_iff rfl) fun htrue =>
        (h₂' htrue).leaves outer nofun
    · exact closed_append (h₁'.isClosed_iff rfl) fun htrue => (h₂' htrue).isClosed_iff rfl
  | .conditional h₁ h₂ h₃ h₄ => by
    have h₁' := leaves_of_readsBody h₁ rfl
    have h₂' htrue := leaves_of_readsBody h₂ ((Bool.not_eq_false' _).mpr htrue)
    have h₃' htrue := leaves_of_readsBody h₃ ((Bool.not_eq_false' _).mpr htrue)
    have h₄' htrue := leaves_of_readsBody h₄ ((Bool.not_eq_false' _).mpr htrue)
    refine ⟨_, _, _, rfl, rfl, fun outer => ?_, ?_⟩
    · refine (h₁'.leaves (_ :: _ :: _ :: outer) nofun).append (h₁'.isClosed_iff rfl) fun h => ?_
      refine ((h₂' h).leaves (_ :: _ :: outer) nofun).append ((h₂' h).isClosed_iff rfl) fun h => ?_
      refine ((h₃' h).leaves (_ :: outer) nofun).append ((h₃' h).isClosed_iff rfl) fun h => ?_
      exact (h₄' h).leaves outer nofun
    · rw [Tag.isClosed, Bool.and_assoc, Bool.and_assoc]
      refine closed_append (h₁'.isClosed_iff rfl) fun h => ?_
      refine closed_append ((h₂' h).isClosed_iff rfl) fun h => ?_
      refine closed_append ((h₃' h).isClosed_iff rfl) fun h => ?_
      exact (h₄' h).isClosed_iff rfl

end

/-- In the tree of a template the delimiter is missed that is awaited next at its end. -/
theorem cutOffs_read (template : List Char) :
    (Body.read template).cutOffs = (awaited [] template).head?.toList := by
  obtain ⟨hnil, heq⟩ | ⟨d, hd, hhead⟩ :=
    (leaves_of_readsBody (reads_read template) rfl).leaves [] fun _ => rfl
  · have hdone : awaited [] template = [] := heq
    rw [hnil, hdone]
    rfl
  · have hhead' : (awaited [] template).head? = some d := hhead
    rw [hd, hhead']
    rfl

/-- A condition in a condition, with an opening behind a backslash, one in the place of a delimiter
and a dollar sign that opens nothing. -/
example : awaited [] "$[a,$[\\$<,$%1,2%,$".toList = [',', ']', ',', ',', ']'] := by decide

end Placard.Template
