import Placard.Proofs.Untaken

/-! # Reading and evaluating in one pass

A template can be evaluated while it is read: `passBody` follows the characters and evaluates what
it finds at once, so that it comes to a tag only when the ones before it have had their effect. It
does what reading the tree first and then evaluating it does (`passesBody_readBody`), and a whole
template is evaluated in one such pass (`evalWhole_eq_passBody`).

So what a part takes of the template, and whether its end was found, are those of the tree, in which
no state has a hand (`cut_eq_of_yields`). -/

namespace Placard.Template

/-- Where a pass stands. -/
inductive Cursor where
  /-- Before what is left of the template. -/
  | before (left : List Char)
  /-- At the end of the template, after a report that a tag is cut off there. -/
  | reported

namespace Cursor

def left : Cursor → List Char
  | before left => left
  | reported => []

def isReported : Cursor → Bool
  | before _ => false
  | reported => true

variable {cursor : Cursor}

theorem eq_before {c : Char} {cs : List Char} (h : cursor.left = c :: cs) :
    cursor = .before (c :: cs) := by
  cases cursor with
  | before left => exact congrArg _ h
  | reported => cases h

/-- The cursor after a part that was cut off. -/
theorem eq_reported {isClosed : Bool} (h : cursor.isReported = !isClosed)
    (hclosed : isClosed = false) : cursor = .reported := by
  subst hclosed
  cases cursor with
  | before => cases h
  | reported => rfl

end Cursor

/-- What a pass over a part of a template gives, and where it leaves off: no further back than
where `bound` characters are left. -/
structure Pass (α : Type) (bound : Nat) where
  result : α
  /-- The part ended at its delimiter. -/
  isClosed : Bool
  cursor : Cursor
  le_bound : cursor.left.length ≤ bound

/-- The same part with another result, seen from further back. -/
def Pass.giving {α β : Type} {bound more : Nat} (pass : Pass α bound) (b : β)
    (h : bound ≤ more) : Pass β more :=
  ⟨b, pass.isClosed, pass.cursor, Nat.le_trans pass.le_bound h⟩

variable {σ : Type} [Provider σ] (nested : Info.Nested σ) (template : String)

mutual

/-- Evaluates the template up to the delimiter, or to its end, adding to a draft. -/
def passBody (evaluate : Bool) (stop : Option Char) (draft : Draft) :
    (start : Cursor) → Eval σ (Pass Draft start.left.length)
  | .reported => return ⟨draft, stop.isNone, .reported, Nat.le_refl _⟩
  | .before [] =>
    match stop with
    | none => return ⟨draft, true, .before [], Nat.le_refl _⟩
    | some delimiter => do
      Eval.report (.unclosedTag delimiter template)
      return ⟨draft, false, .reported, Nat.le_refl _⟩
  | .before (c :: rest) =>
    if stop = some c then return ⟨draft, true, .before rest, Nat.le_succ _⟩
    else if c = '\\' then
      match rest with
      | [] => do
        let piece := draft.add (← openStyles) ['\\']
        let pass ← passBody evaluate stop (draft.edited piece (.keep 1)) (.before [])
        return pass.giving pass.result (Nat.zero_le _)
      | d :: rest => do
        let piece := draft.add (← openStyles) [d]
        let pass ← passBody evaluate stop (draft.edited piece (.replace 2 [d])) (.before rest)
        return pass.giving pass.result (Nat.le_add_right _ 2)
    else do
      match ← if c = '$' then passTag evaluate rest else pure none with
      | some tag =>
        let piece := draft.addPiece (← openStyles) tag.result
        let length := rest.length + 1 - tag.cursor.left.length
        let pass ← passBody evaluate stop
          (draft.edited piece (.replace length tag.result.text.text)) tag.cursor
        return pass.giving pass.result (Nat.le_succ_of_le tag.le_bound)
      | none =>
        let piece := draft.add (← openStyles) [c]
        let pass ← passBody evaluate stop (draft.edited piece (.keep 1)) (.before rest)
        return pass.giving pass.result (Nat.le_succ _)
termination_by start => start.left.length
decreasing_by
  all_goals
    try have := tag.le_bound
    simp only [Cursor.left, List.length_cons, List.length_nil] at *
    omega

/-- Evaluates the tag after a dollar sign; `none` if there is no tag. -/
def passTag (evaluate : Bool) (cs : List Char) : Eval σ (Option (Pass Piece cs.length)) :=
  match cs with
  | [] => return none
  | c :: rest =>
    if c = '<' then do
      let name ← passBody evaluate (some '>') {} (.before rest)
      have hle := Nat.le_succ rest.length
      if !name.isClosed then return some (name.giving name.result.toPiece hle)
      else if !evaluate then return some (name.giving {} hle)
      else
        let value ← Info.resolve nested name.result.text.text
        return some (name.giving { text := value.toRich } hle)
    else if c = '\x7b' then do
      let token ← passBody evaluate (some '\x7d') {} (.before rest)
      have hle := Nat.le_succ rest.length
      if !token.isClosed then return some (token.giving token.result.toPiece hle)
      if evaluate then applyColor token.result.text.toString
      return some (token.giving {} hle)
    else if c = '%' then do
      let first ← passBody evaluate (some ',') {} (.before rest)
      have hle := Nat.le_succ rest.length
      if !first.isClosed then return some (first.giving first.result.toPiece hle)
      let second ← passBody evaluate (some '%') {} first.cursor
      have hle := Nat.le_trans first.le_bound hle
      if !second.isClosed then return some (second.giving second.result.toPiece hle)
      else if !evaluate then return some (second.giving {} hle)
      else
        let value ← percentage nested first.result.text.text second.result.text.text
        return some (second.giving { text := value } hle)
    else if c = '[' then do
      let first ← passBody evaluate (some ',') {} (.before rest)
      have hle := Nat.le_succ rest.length
      if !first.isClosed then return some (first.giving first.result.toPiece hle)
      let second ← passBody evaluate (some ',') {} first.cursor
      have hle := Nat.le_trans first.le_bound hle
      if !second.isClosed then return some (second.giving second.result.toPiece hle)
      let equal := first.result.text.text = second.result.text.text
      let third ← passBody (evaluate && equal) (some ',') {} second.cursor
      have hle := Nat.le_trans second.le_bound hle
      if !third.isClosed then return some (third.giving third.result.toPiece hle)
      let fourth ← passBody (evaluate && !equal) (some ']') {} third.cursor
      have hle := Nat.le_trans third.le_bound hle
      if !fourth.isClosed then return some (fourth.giving fourth.result.toPiece hle)
      return some (fourth.giving
        (if equal then third.result.toPiece else fourth.result.toPiece) hle)
    else return none
termination_by cs.length
decreasing_by
  all_goals
    try have := first.le_bound
    try have := second.le_bound
    try have := third.le_bound
    simp only [Cursor.left, List.length_cons] at *
    omega

end

/-! ## What a pass does -/

/-- From `start` the pass does what evaluating `body` does, and leaves off with `left` before it.
Where it ended its part without a delimiter, it has reported that. -/
def PassesBody (stop : Option Char) (start : Cursor) (body : Body) (left : List Char) : Prop :=
  ∃ (after : Cursor) (h : after.left.length ≤ start.left.length), after.left = left ∧
    (stop.isSome = true → after.isReported = !body.isClosed) ∧
    ∀ evaluate draft, passBody nested template evaluate stop draft start =
      (⟨·, body.isClosed, after, h⟩) <$> evalBody nested template evaluate draft body

/-- After a dollar sign the pass does what evaluating `tag` does. -/
def PassesTag (cs : List Char) (tag : Tag) (left : List Char) : Prop :=
  ∃ (after : Cursor) (h : after.left.length ≤ cs.length), after.left = left ∧
    after.isReported = !tag.isClosed ∧
    ∀ evaluate, passTag nested template evaluate cs =
      (some ⟨·, tag.isClosed, after, h⟩) <$> evalTag nested template evaluate tag

theorem passTag_eq_none {cs : List Char} (h : ¬ OpensTag cs) (evaluate : Bool) :
    passTag nested template evaluate cs = pure none := by
  match cs with
  | [] => rw [passTag]
  | c :: rest =>
    have hc : c ∉ ['<', '\x7b', '%', '['] := fun hc => h ⟨c, rest, rfl, hc⟩
    simp only [List.mem_cons, List.not_mem_nil, or_false, not_or] at hc
    obtain ⟨hinfo, hcolor, hpercentage, hconditional⟩ := hc
    rw [passTag, if_neg hinfo, if_neg hcolor, if_neg hpercentage, if_neg hconditional]

/-- A part after one that was cut off is not closed. -/
theorem isClosed_after_cutOff (h : ReadsBody (some d) cutOff cs body rest)
    (h' : ReadsBody (some d') (!body.isClosed) rest body' left) (hbody : body.isClosed = false) :
    body'.isClosed = false := by
  have hend := (endsOnce_of_readsBody h).2 rfl
  rw [hbody] at hend h'
  obtain ⟨rfl, -⟩ := hend
  obtain ⟨rfl, -⟩ := eq_done_of_reads_nil h'
  rfl

/-- So the last part tells whether all of them are closed. -/
theorem and_isClosed (h : ReadsBody (some d) cutOff cs body rest)
    (h' : ReadsBody (some d') (!body.isClosed) rest body' left) :
    (body.isClosed && body'.isClosed) = body'.isClosed := by
  cases hbody : body.isClosed
  · exact (isClosed_after_cutOff h h' hbody).symm
  · exact Bool.true_and _

section Tags

variable {nested template} {cs rest rest₁ rest₂ rest₃ left : List Char}

theorem passesTag_info (h : PassesBody nested template (some '>') (.before cs) name left) :
    PassesTag nested template ('<' :: cs) (.info name) left := by
  obtain ⟨after, hle, hleft, hreported, hpass⟩ := h
  refine ⟨after, Nat.le_succ_of_le hle, hleft, hreported rfl, fun evaluate => ?_⟩
  rw [passTag, if_pos rfl, hpass, bind_map_left]
  unfold evalTag
  rw [map_bind]
  refine bind_congr fun draft => ?_
  cases hclosed : name.isClosed
  · simp [Tag.isClosed, hclosed, Pass.giving]
  cases evaluate <;> simp [Tag.isClosed, hclosed, Pass.giving]

theorem passesTag_color (h : PassesBody nested template (some '\x7d') (.before cs) token left) :
    PassesTag nested template ('\x7b' :: cs) (.color token) left := by
  obtain ⟨after, hle, hleft, hreported, hpass⟩ := h
  refine ⟨after, Nat.le_succ_of_le hle, hleft, hreported rfl, fun evaluate => ?_⟩
  rw [passTag, if_neg (by decide), if_pos rfl, hpass, bind_map_left]
  unfold evalTag
  rw [map_bind]
  refine bind_congr fun draft => ?_
  cases hclosed : token.isClosed
  · simp [Tag.isClosed, hclosed, Pass.giving]
  cases evaluate <;> simp [Tag.isClosed, hclosed, Pass.giving]

theorem passesTag_percentage
    (r₁ : ReadsBody (some ',') false cs numerator rest)
    (r₂ : ReadsBody (some '%') (!numerator.isClosed) rest denominator left)
    (h₁ : PassesBody nested template (some ',') (.before cs) numerator rest)
    (h₂ : ∀ start : Cursor, start.left = rest → start.isReported = !numerator.isClosed →
      PassesBody nested template (some '%') start denominator left) :
    PassesTag nested template ('%' :: cs) (.percentage numerator denominator) left := by
  obtain ⟨mid, hle₁, hmid, hreported₁, hpass₁⟩ := h₁
  obtain ⟨after, hle₂, hleft, hreported₂, hpass₂⟩ := h₂ mid hmid (hreported₁ rfl)
  have hle := Nat.le_trans hle₂ hle₁
  have hclosed : (Tag.percentage numerator denominator).isClosed = denominator.isClosed :=
    and_isClosed r₁ r₂
  refine ⟨after, Nat.le_succ_of_le hle, hleft, hclosed ▸ hreported₂ rfl, fun evaluate => ?_⟩
  rw [passTag, if_neg (by decide), if_neg (by decide), if_pos rfl, hpass₁, bind_map_left]
  unfold evalTag
  rw [map_bind]
  refine bind_congr fun first => ?_
  cases hclosed₁ : numerator.isClosed
  · obtain rfl := Cursor.eq_reported (hreported₁ rfl) hclosed₁
    obtain rfl := Cursor.eq_reported (hreported₂ rfl) (isClosed_after_cutOff r₁ r₂ hclosed₁)
    simp [Tag.isClosed, hclosed₁, Pass.giving]
  simp only [hpass₂, bind_map_left, Bool.not_true, Bool.false_eq_true, if_false, map_bind]
  refine bind_congr fun second => ?_
  cases hclosed₂ : denominator.isClosed
  · simp [Tag.isClosed, hclosed₁, hclosed₂, Pass.giving]
  cases evaluate <;> simp [Tag.isClosed, hclosed₁, hclosed₂, Pass.giving]

theorem passesTag_conditional
    (r₁ : ReadsBody (some ',') false cs first rest₁)
    (r₂ : ReadsBody (some ',') (!first.isClosed) rest₁ second rest₂)
    (r₃ : ReadsBody (some ',') (!second.isClosed) rest₂ whenEqual rest₃)
    (r₄ : ReadsBody (some ']') (!whenEqual.isClosed) rest₃ whenDifferent left)
    (h₁ : PassesBody nested template (some ',') (.before cs) first rest₁)
    (h₂ : ∀ start : Cursor, start.left = rest₁ → start.isReported = !first.isClosed →
      PassesBody nested template (some ',') start second rest₂)
    (h₃ : ∀ start : Cursor, start.left = rest₂ → start.isReported = !second.isClosed →
      PassesBody nested template (some ',') start whenEqual rest₃)
    (h₄ : ∀ start : Cursor, start.left = rest₃ → start.isReported = !whenEqual.isClosed →
      PassesBody nested template (some ']') start whenDifferent left) :
    PassesTag nested template ('[' :: cs)
      (.conditional first second whenEqual whenDifferent) left := by
  obtain ⟨cursor₁, hle₁, hleft₁, hreported₁, hpass₁⟩ := h₁
  obtain ⟨cursor₂, hle₂, hleft₂, hreported₂, hpass₂⟩ := h₂ cursor₁ hleft₁ (hreported₁ rfl)
  obtain ⟨cursor₃, hle₃, hleft₃, hreported₃, hpass₃⟩ := h₃ cursor₂ hleft₂ (hreported₂ rfl)
  obtain ⟨after, hle₄, hleft, hreported₄, hpass₄⟩ := h₄ cursor₃ hleft₃ (hreported₃ rfl)
  have hle := Nat.le_trans hle₄ (Nat.le_trans hle₃ (Nat.le_trans hle₂ hle₁))
  have hclosed : (Tag.conditional first second whenEqual whenDifferent).isClosed =
      whenDifferent.isClosed := by
    rw [Tag.isClosed, and_isClosed r₁ r₂, and_isClosed r₂ r₃, and_isClosed r₃ r₄]
  refine ⟨after, Nat.le_succ_of_le hle, hleft, hclosed ▸ hreported₄ rfl, fun evaluate => ?_⟩
  rw [passTag, if_neg (by decide), if_neg (by decide), if_neg (by decide), if_pos rfl, hpass₁,
    bind_map_left]
  unfold evalTag
  rw [map_bind]
  -- A part that was cut off is the last one, so the pass ends where it did.
  have hend := Cursor.eq_reported (hreported₄ rfl)
  refine bind_congr fun firstDraft => ?_
  cases hclosed₁ : first.isClosed
  · obtain rfl := Cursor.eq_reported (hreported₁ rfl) hclosed₁
    obtain rfl := hend (isClosed_after_cutOff r₃ r₄ (isClosed_after_cutOff r₂ r₃
      (isClosed_after_cutOff r₁ r₂ hclosed₁)))
    simp [Tag.isClosed, hclosed₁, Pass.giving]
  simp only [hpass₂, bind_map_left, Bool.not_true, Bool.false_eq_true, if_false, map_bind]
  refine bind_congr fun secondDraft => ?_
  cases hclosed₂ : second.isClosed
  · obtain rfl := Cursor.eq_reported (hreported₂ rfl) hclosed₂
    obtain rfl := hend (isClosed_after_cutOff r₃ r₄ (isClosed_after_cutOff r₂ r₃ hclosed₂))
    simp [Tag.isClosed, hclosed₁, hclosed₂, Pass.giving]
  simp only [hpass₃, bind_map_left, Bool.not_true, Bool.false_eq_true, if_false, map_bind]
  refine bind_congr fun thirdDraft => ?_
  cases hclosed₃ : whenEqual.isClosed
  · obtain rfl := Cursor.eq_reported (hreported₃ rfl) hclosed₃
    obtain rfl := hend (isClosed_after_cutOff r₃ r₄ hclosed₃)
    simp [Tag.isClosed, hclosed₁, hclosed₂, hclosed₃, Pass.giving]
  simp only [hpass₄, bind_map_left, Bool.not_true, Bool.false_eq_true, if_false, map_bind]
  refine bind_congr fun fourthDraft => ?_
  cases hclosed₄ : whenDifferent.isClosed <;>
    simp [Tag.isClosed, hclosed₁, hclosed₂, hclosed₃, hclosed₄, Pass.giving]

/-- One step, whether over a character or over a tag, and then the rest of the body. -/
theorem PassesBody.step {next start : Cursor} {node : Body}
    (step : Bool → Draft → Eval σ Draft) (h : PassesBody nested template stop next body left)
    (hclosed : node.isClosed = body.isClosed) (hle : next.left.length ≤ start.left.length)
    (hpass : ∀ evaluate draft, passBody nested template evaluate stop draft start = do
      let pass ← passBody nested template evaluate stop (← step evaluate draft) next
      return pass.giving pass.result hle)
    (heval : ∀ evaluate draft, evalBody nested template evaluate draft node =
      step evaluate draft >>= fun draft => evalBody nested template evaluate draft body) :
    PassesBody nested template stop start node left := by
  obtain ⟨after, hafter, hleft, hreported, hbody⟩ := h
  refine ⟨after, Nat.le_trans hafter hle, hleft, hclosed ▸ hreported, fun evaluate draft => ?_⟩
  rw [hpass, heval, map_bind]
  refine bind_congr fun draft => ?_
  rw [hbody, bind_map_left, hclosed]
  rfl

theorem passesBody_atEnd {start : Cursor} (hleft : start.left = [])
    (hreported : start.isReported = cutOff) :
    PassesBody nested template stop start (.done (.atEnd stop cutOff)) [] := by
  subst hreported
  cases start with
  | reported =>
    refine ⟨.reported, Nat.le_refl _, rfl, ?_, fun evaluate draft => ?_⟩
    · cases stop with
      | none => exact fun h => absurd h Bool.false_ne_true
      | some => exact fun _ => rfl
    · rw [passBody]
      unfold evalBody
      cases stop <;> rfl
  | before left =>
    obtain rfl : left = [] := hleft
    cases stop with
    | none =>
      refine ⟨.before [], Nat.le_refl _, rfl, fun h => absurd h Bool.false_ne_true,
        fun evaluate draft => ?_⟩
      rw [passBody]
      rfl
    | some delimiter =>
      refine ⟨.reported, Nat.le_refl _, rfl, fun _ => rfl, fun evaluate draft => ?_⟩
      rw [passBody]
      rfl

end Tags

mutual

theorem passesBody_of_reads : ReadsBody stop cutOff cs body left → ∀ start : Cursor,
    start.left = cs → start.isReported = cutOff → PassesBody nested template stop start body left
  | .atEnd, start, hleft, hreported => passesBody_atEnd hleft hreported
  | .delimiter, start, hleft, hreported => by
    obtain rfl := Cursor.eq_before hleft
    refine ⟨.before _, Nat.le_succ _, rfl, fun _ => rfl, fun evaluate draft => ?_⟩
    rw [passBody.eq_def]
    dsimp only
    rw [if_pos rfl]
    rfl
  | @ReadsBody.backslash stop _ hstop, start, hleft, hreported => by
    obtain rfl := Cursor.eq_before hleft
    have hend : PassesBody nested template stop (.before []) (.done (.atEnd stop false)) [] :=
      passesBody_atEnd rfl rfl
    refine hend.step
      (fun _ draft => return draft.edited (draft.add (← openStyles) ['\\']) (.keep 1))
      rfl (Nat.zero_le _) (fun evaluate draft => ?_) (fun evaluate draft => ?_)
    · rw [passBody.eq_def]
      dsimp only
      rw [if_neg hstop, if_pos rfl]
      simp only [bind_assoc, pure_bind]
    · rw [evalBody]
      simp only [bind_assoc, pure_bind]
  | .escaped (c := c) hstop h, start, hleft, hreported => by
    obtain rfl := Cursor.eq_before hleft
    refine (passesBody_of_reads h (.before _) rfl rfl).step
      (fun _ draft => return draft.edited (draft.add (← openStyles) [c]) (.replace 2 [c]))
      rfl (Nat.le_add_right _ 2) (fun evaluate draft => ?_) (fun evaluate draft => ?_)
    · rw [passBody.eq_def]
      dsimp only
      rw [if_neg hstop, if_pos rfl]
      simp only [bind_assoc, pure_bind]
    · rw [evalBody]
      simp only [bind_assoc, pure_bind]
  | @ReadsBody.tag _ rest tag _ _ _ _ hstop ht h, start, hleft, hreported => by
    obtain rfl := Cursor.eq_before hleft
    obtain ⟨next, hnext, hnextLeft, hnextReported, htag⟩ := passesTag_of_reads ht
    refine (passesBody_of_reads h next hnextLeft hnextReported).step
      (fun evaluate draft => do
        let added ← evalTag nested template evaluate tag
        return draft.edited (draft.addPiece (← openStyles) added)
          (.replace (rest.length + 1 - next.left.length) added.text.text))
      rfl (Nat.le_succ_of_le hnext) (fun evaluate draft => ?_) (fun evaluate draft => ?_)
    · rw [passBody.eq_def]
      dsimp only
      rw [if_neg hstop, if_neg (by decide), if_pos rfl, htag]
      simp only [bind_map_left, bind_assoc, pure_bind]
    · rw [evalBody]
      simp only [bind_assoc, pure_bind, hnextLeft]
  | .char (c := c) hstop hescape hdollar h, start, hleft, hreported => by
    obtain rfl := Cursor.eq_before hleft
    refine (passesBody_of_reads h (.before _) rfl rfl).step
      (fun _ draft => return draft.edited (draft.add (← openStyles) [c]) (.keep 1))
      rfl (Nat.le_succ _) (fun evaluate draft => ?_) (fun evaluate draft => ?_)
    · rw [passBody.eq_def]
      dsimp only
      rw [if_neg hstop, if_neg hescape]
      split
      · rename_i hc
        rw [passTag_eq_none nested template (hdollar hc)]
        simp only [bind_assoc, pure_bind]
      · simp only [bind_assoc, pure_bind]
    · rw [evalBody]
      simp only [bind_assoc, pure_bind]

theorem passesTag_of_reads : ReadsTag cs tag left → PassesTag nested template cs tag left
  | .info h => passesTag_info (passesBody_of_reads h _ rfl rfl)
  | .color h => passesTag_color (passesBody_of_reads h _ rfl rfl)
  | .percentage h₁ h₂ => passesTag_percentage h₁ h₂ (passesBody_of_reads h₁ _ rfl rfl)
    (passesBody_of_reads h₂)
  | .conditional h₁ h₂ h₃ h₄ => passesTag_conditional h₁ h₂ h₃ h₄
    (passesBody_of_reads h₁ _ rfl rfl) (passesBody_of_reads h₂) (passesBody_of_reads h₃)
    (passesBody_of_reads h₄)

end

/-- Evaluating in one pass is reading the tree and evaluating it. -/
theorem passesBody_readBody (stop : Option Char) (start : Cursor) :
    PassesBody nested template stop start (readBody stop start.isReported start.left).1.1
      (readBody stop start.isReported start.left).1.2 :=
  passesBody_of_reads nested template (reads_readBody stop start.isReported start.left) start
    rfl rfl

/-- A whole template is evaluated in one pass. -/
theorem evalWhole_eq_passBody (cs : List Char) : evalWhole nested cs = do
    let pass ← passBody nested (String.ofList cs) true none {} (.before cs)
    modify fun context => { context with styles := context.styles.cleared }
    return { rich := pass.result.text, plain := pass.result.plain cs } := by
  obtain ⟨after, hle, -, -, hpass⟩ :=
    passesBody_readBody nested (String.ofList cs) none (.before cs)
  rw [hpass, bind_map_left]
  rfl

/-! ## Where a part is cut -/

/-- Whether a tag was cut off before says nothing about where a part ends. -/
theorem cut_readBody_congr (stop : Option Char) (cutOff cutOff' : Bool) {cs cs' : List Char}
    (h : cs' = cs) :
    (readBody stop cutOff' cs').1.1.isClosed = (readBody stop cutOff cs).1.1.isClosed ∧
      (readBody stop cutOff' cs').1.2 = (readBody stop cutOff cs).1.2 := by
  subst h
  cases cs' with
  | nil =>
    rw [readBody, readBody]
    cases stop <;> cases cutOff <;> cases cutOff' <;> exact ⟨rfl, rfl⟩
  | cons c rest =>
    rw [readBody.eq_def stop cutOff, readBody.eq_def stop cutOff']
    exact ⟨rfl, rfl⟩

/-- A pass that succeeds evaluates the tree of the text before it, and ends where the tree does. -/
theorem yields_passBody {pass : Pass Draft start.left.length}
    (h : (passBody nested template evaluate stop draft start).Yields c pass d) :
    (evalBody nested template evaluate draft
      (readBody stop start.isReported start.left).1.1).Yields c pass.result d ∧
    pass.isClosed = (readBody stop start.isReported start.left).1.1.isClosed ∧
    pass.cursor.left = (readBody stop start.isReported start.left).1.2 := by
  obtain ⟨after, hle, hleft, -, hpass⟩ := passesBody_readBody nested template stop start
  rw [hpass, ← bind_pure_comp] at h
  obtain ⟨result, c', hresult, hend⟩ := Eval.yields_bind.mp h
  obtain ⟨rfl, rfl⟩ := Eval.yields_pure.mp hend
  exact ⟨hresult, rfl, hleft⟩

/-- Where a part of a template is cut is decided by its text alone. Two passes from one place that
both succeed, whether they evaluate or only follow, whatever the providers, the states, the drafts
and the nested templates, both end their part or both miss its end, and leave the same of the
template. What the first one evaluates is the tree that the text before it has, so no value, color
or choice of a branch shifts how the rest is read. -/
theorem cut_eq_of_yields {τ : Type} [Provider τ] (nested' : Info.Nested τ) (template' : String)
    (stop : Option Char) {start start' : Cursor} {c d : Context σ} {c' d' : Context τ}
    {pass : Pass Draft start.left.length} {pass' : Pass Draft start'.left.length}
    (hstart : start'.left = start.left)
    (h : (passBody nested template evaluate stop draft start).Yields c pass d)
    (h' : (passBody nested' template' evaluate' stop draft' start').Yields c' pass' d') :
    pass'.isClosed = pass.isClosed ∧ pass'.cursor.left = pass.cursor.left ∧
      (evalBody nested template evaluate draft
        (readBody stop start.isReported start.left).1.1).Yields c pass.result d := by
  obtain ⟨hresult, hclosed, hleft⟩ := yields_passBody nested template h
  obtain ⟨-, hclosed', hleft'⟩ := yields_passBody nested' template' h'
  obtain ⟨hcut, hcutLeft⟩ := cut_readBody_congr stop start.isReported start'.isReported hstart
  exact ⟨hclosed'.trans (hcut.trans hclosed.symm), hleft'.trans (hcutLeft.trans hleft.symm),
    hresult⟩

/-- One pass evaluates a condition, with the user's name in it, and takes one of its branches; the
other one only follows it. -/
theorem cut_eq_of_yields_followed :
    let start := Cursor.before "$[$<user.name>,me,$\x7bred\x7da,b\\,$<x>],d".toList
    let facts : Facts := { user := { name := "me" } }
    ∃ pass d pass' d',
      (passBody (evalNested maxDepth) "" true (some ',') {} start).Yields
        ({ config := {}, provider := { facts } } : Context Snapshot) pass d ∧
      (passBody (evalNested 0) "" false (some ',') {} start).Yields
        ({ config := { disableColors := true }, provider := {} } : Context Snapshot) pass' d' ∧
      pass.result.text.text = ['a'] ∧ pass'.isClosed = true ∧ pass'.cursor.left = ['d'] ∧
      pass'.isClosed = pass.isClosed ∧ pass'.cursor.left = pass.cursor.left := by
  intro start facts
  obtain ⟨pass, d, h, htext⟩ := Eval.exists_yields
    (x := passBody (evalNested maxDepth) "" true (some ',') {} start)
    (c := ({ config := {}, provider := { facts } } : Context Snapshot))
    (p := (·.result.text.text = ['a'])) (Q := fun pass _ => pass.result.text.text = ['a'])
    (by decide +kernel) fun _ _ _ hp => of_decide_eq_true hp
  obtain ⟨pass', d', h', hend⟩ := Eval.exists_yields
    (x := passBody (evalNested 0) "" false (some ',') {} start)
    (c := ({ config := { disableColors := true }, provider := {} } : Context Snapshot))
    (p := fun pass => pass.isClosed && pass.cursor.left = ['d'])
    (Q := fun pass _ => pass.isClosed = true ∧ pass.cursor.left = ['d'])
    (by decide +kernel) fun _ _ _ hp => by simpa using hp
  obtain ⟨hclosed, hleft, -⟩ := cut_eq_of_yields _ "" _ "" (some ',') rfl h h'
  exact ⟨pass, d, pass', d', h, h', htext, hend.1, hend.2, hclosed, hleft⟩

end Placard.Template
