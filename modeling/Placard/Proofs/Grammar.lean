import Placard.Template.Reader

/-! # The tag grammar

`ReadsBody delimiter cutOff cs body left` says that the reader takes `body` from the front of `cs`
and leaves `left`; `ReadsTag` says the same of what follows the dollar sign of a tag. The rules
are the grammar of the template language, the first one that applies wins, and the reader follows
them (`reads_readBody`, `reads_readTag`).

What is left is always the end of what was there (`ReadsBody.suffix`), so a tag takes exactly as
many characters as its node says (`ReadsTag.exists_taken`). A text is read in one way only
(`ReadsBody.unique`). -/

namespace Placard.Template

/-- The characters that make a tag of the dollar sign before them. -/
def OpensTag (cs : List Char) : Prop := ∃ c rest, cs = c :: rest ∧ c ∈ ['<', '\x7b', '%', '[']

mutual

inductive ReadsBody : Option Char → Bool → List Char → Body → List Char → Prop
  | atEnd : ReadsBody delimiter cutOff [] (.done (.atEnd delimiter cutOff)) []
  | delimiter : ReadsBody (some c) cutOff (c :: cs) (.done .closed) cs
  | backslash : delimiter ≠ some '\\' →
      ReadsBody delimiter cutOff ['\\'] (.backslash (.done (.atEnd delimiter false))) []
  | escaped : delimiter ≠ some '\\' → ReadsBody delimiter false cs body left →
      ReadsBody delimiter cutOff ('\\' :: c :: cs) (.escaped c body) left
  | tag : delimiter ≠ some '$' → ReadsTag cs tag after →
      ReadsBody delimiter (!tag.isClosed) after body left →
      ReadsBody delimiter cutOff ('$' :: cs) (.tag tag (cs.length + 1 - after.length) body) left
  | char : delimiter ≠ some c → c ≠ '\\' → (c = '$' → ¬ OpensTag cs) →
      ReadsBody delimiter false cs body left →
      ReadsBody delimiter cutOff (c :: cs) (.char c body) left

inductive ReadsTag : List Char → Tag → List Char → Prop
  | info : ReadsBody (some '>') false cs name left → ReadsTag ('<' :: cs) (.info name) left
  | color : ReadsBody (some '\x7d') false cs token left →
      ReadsTag ('\x7b' :: cs) (.color token) left
  | percentage : ReadsBody (some ',') false cs numerator rest →
      ReadsBody (some '%') (!numerator.isClosed) rest denominator left →
      ReadsTag ('%' :: cs) (.percentage numerator denominator) left
  | conditional : ReadsBody (some ',') false cs first rest₁ →
      ReadsBody (some ',') (!first.isClosed) rest₁ second rest₂ →
      ReadsBody (some ',') (!second.isClosed) rest₂ whenEqual rest₃ →
      ReadsBody (some ']') (!whenEqual.isClosed) rest₃ whenDifferent left →
      ReadsTag ('[' :: cs) (.conditional first second whenEqual whenDifferent) left

end

/-- A character without a meaning stands for itself. -/
theorem reads_ordinary (hstop : stop ≠ some c) (hescape : c ≠ '\\') (hdollar : c ≠ '$')
    (h : ReadsBody stop false cs body left) : ReadsBody stop cutOff (c :: cs) (.char c body) left :=
  .char hstop hescape (absurd · hdollar) h

/-! ## The reader follows the grammar -/

theorem not_opensTag_of_readTag (h : readTag cs = none) : ¬ OpensTag cs := by
  rintro ⟨c, rest, rfl, hc⟩
  rw [readTag] at h
  simp only [List.mem_cons, List.not_mem_nil, or_false] at hc
  rcases hc with rfl | rfl | rfl | rfl <;> simp at h

/-- The bodies of a tag are shorter than the tag, so the reader is known to take them well. -/
theorem reads_readTag_of_shorter {cs : List Char} {r : Reading Tag cs}
    (ih : ∀ delimiter cutOff rest, rest.length < cs.length →
      ReadsBody delimiter cutOff rest (readBody delimiter cutOff rest).1.1
        (readBody delimiter cutOff rest).1.2)
    (h : readTag cs = some r) : ReadsTag cs r.1.1 r.1.2 := by
  match cs with
  | [] => simp [readTag] at h
  | c :: rest =>
    rw [readTag.eq_def] at h
    dsimp only at h
    split at h
    · cases h
      subst c
      exact .info (ih _ _ _ (Nat.lt_succ_self _))
    split at h
    · cases h
      subst c
      exact .color (ih _ _ _ (Nat.lt_succ_self _))
    split at h
    · cases h
      subst c
      exact .percentage (ih _ _ _ (Nat.lt_succ_self _))
        (ih _ _ _ (Nat.lt_succ_of_le (readBody ..).2))
    split at h
    · cases h
      subst c
      exact .conditional (ih _ _ _ (Nat.lt_succ_self _))
        (ih _ _ _ (Nat.lt_succ_of_le (readBody ..).2))
        (ih _ _ _ (Nat.lt_succ_of_le (Nat.le_trans (readBody ..).2 (readBody ..).2)))
        (ih _ _ _ (Nat.lt_succ_of_le
          (Nat.le_trans (readBody ..).2 (Nat.le_trans (readBody ..).2 (readBody ..).2))))
    · cases h

theorem reads_readBody (delimiter : Option Char) (cutOff : Bool) (cs : List Char) :
    ReadsBody delimiter cutOff cs (readBody delimiter cutOff cs).1.1
      (readBody delimiter cutOff cs).1.2 := by
  match cs with
  | [] =>
    rw [readBody]
    exact .atEnd
  | c :: rest =>
    rw [readBody.eq_def]
    dsimp only
    split
    · rename_i h
      subst h
      exact .delimiter
    rename_i hd
    split
    · rename_i h
      subst h
      split
      · exact .backslash hd
      · exact .escaped hd (reads_readBody ..)
    rename_i hb
    split
    · rename_i h
      subst h
      split
      · rename_i tag after hle htag
        have hshort : after.length ≤ rest.length := hle
        exact .tag hd (reads_readTag_of_shorter (fun _ _ cs' _ => reads_readBody _ _ cs') htag)
          (reads_readBody ..)
      · rename_i htag
        exact .char hd hb (fun _ => not_opensTag_of_readTag htag) (reads_readBody ..)
    · rename_i h
      exact .char hd hb (absurd · h) (reads_readBody ..)
termination_by cs.length
decreasing_by all_goals (subst_vars; simp only [List.length_cons] at *; omega)

theorem reads_readTag {cs : List Char} {r : Reading Tag cs} (h : readTag cs = some r) :
    ReadsTag cs r.1.1 r.1.2 :=
  reads_readTag_of_shorter (fun _ _ _ _ => reads_readBody ..) h

/-! ## What is left is the end of what was there -/

mutual

theorem ReadsBody.suffix : ReadsBody delimiter cutOff cs body left → left <:+ cs
  | .atEnd => List.nil_suffix
  | .delimiter => List.suffix_cons ..
  | .backslash _ => List.nil_suffix
  | .escaped _ h => h.suffix.trans ((List.suffix_cons ..).trans (List.suffix_cons ..))
  | .tag _ ht h => h.suffix.trans (ht.suffix.trans (List.suffix_cons ..))
  | .char _ _ _ h => h.suffix.trans (List.suffix_cons ..)

theorem ReadsTag.suffix : ReadsTag cs tag left → left <:+ cs
  | .info h => h.suffix.trans (List.suffix_cons ..)
  | .color h => h.suffix.trans (List.suffix_cons ..)
  | .percentage h₁ h₂ => h₂.suffix.trans (h₁.suffix.trans (List.suffix_cons ..))
  | .conditional h₁ h₂ h₃ h₄ =>
    h₄.suffix.trans (h₃.suffix.trans (h₂.suffix.trans (h₁.suffix.trans (List.suffix_cons ..))))

end

/-- A tag takes its dollar sign and what stands before the rest, and its node counts both. -/
theorem ReadsTag.exists_taken (h : ReadsTag cs tag after) :
    ∃ taken, '$' :: cs = taken ++ after ∧ taken.length = cs.length + 1 - after.length := by
  obtain ⟨front, rfl⟩ := h.suffix
  refine ⟨'$' :: front, rfl, ?_⟩
  simp only [List.length_cons, List.length_append]
  omega

/-- Without a delimiter nothing is left. -/
theorem ReadsBody.left_eq_nil (h : ReadsBody none cutOff cs body left) : left = [] := by
  match h with
  | .atEnd => rfl
  | .backslash _ => rfl
  | .escaped _ h => exact h.left_eq_nil
  | .tag _ _ h => exact h.left_eq_nil
  | .char _ _ _ h => exact h.left_eq_nil

/-- The tree of a whole template is read from all of it. -/
theorem reads_read (template : List Char) : ReadsBody none false template (.read template) [] := by
  have h := reads_readBody none false template
  rwa [h.left_eq_nil] at h

/-! ## There is one way to read a text -/

theorem ReadsTag.opensTag (h : ReadsTag cs tag left) : OpensTag cs := by
  cases h <;> exact ⟨_, _, rfl, by decide⟩

mutual

/-- There is one way to read a body. -/
theorem ReadsBody.unique (h : ReadsBody stop cutOff cs body left)
    (h' : ReadsBody stop cutOff cs body' left') : body' = body ∧ left' = left := by
  match h with
  | .atEnd =>
    cases h'
    exact ⟨rfl, rfl⟩
  | .delimiter =>
    cases h' with
    | delimiter => exact ⟨rfl, rfl⟩
    | backslash hb | escaped hb | tag hb | char hb => exact absurd rfl hb
  | .backslash hb =>
    cases h' with
    | delimiter => exact absurd rfl hb
    | backslash => exact ⟨rfl, rfl⟩
    | char _ hc => exact absurd rfl hc
  | .escaped hb hr =>
    cases h' with
    | delimiter => exact absurd rfl hb
    | escaped _ hr' =>
      obtain ⟨rfl, rfl⟩ := hr.unique hr'
      exact ⟨rfl, rfl⟩
    | char _ hc => exact absurd rfl hc
  | .tag hs ht hr =>
    cases h' with
    | delimiter => exact absurd rfl hs
    | tag _ ht' hr' =>
      obtain ⟨rfl, rfl⟩ := ht.unique ht'
      obtain ⟨rfl, rfl⟩ := hr.unique hr'
      exact ⟨rfl, rfl⟩
    | char _ _ hd => exact absurd ht.opensTag (hd rfl)
  | .char hs hc hd hr =>
    cases h' with
    | delimiter => exact absurd rfl hs
    | backslash | escaped => exact absurd rfl hc
    | tag _ ht' => exact absurd ht'.opensTag (hd rfl)
    | char _ _ _ hr' =>
      obtain ⟨rfl, rfl⟩ := hr.unique hr'
      exact ⟨rfl, rfl⟩

theorem ReadsTag.unique (h : ReadsTag cs tag left) (h' : ReadsTag cs tag' left') :
    tag' = tag ∧ left' = left := by
  match h with
  | .info h₁ =>
    cases h' with
    | info h₁' =>
      obtain ⟨rfl, rfl⟩ := h₁.unique h₁'
      exact ⟨rfl, rfl⟩
  | .color h₁ =>
    cases h' with
    | color h₁' =>
      obtain ⟨rfl, rfl⟩ := h₁.unique h₁'
      exact ⟨rfl, rfl⟩
  | .percentage h₁ h₂ =>
    cases h' with
    | percentage h₁' h₂' =>
      obtain ⟨rfl, rfl⟩ := h₁.unique h₁'
      obtain ⟨rfl, rfl⟩ := h₂.unique h₂'
      exact ⟨rfl, rfl⟩
  | .conditional h₁ h₂ h₃ h₄ =>
    cases h' with
    | conditional h₁' h₂' h₃' h₄' =>
      obtain ⟨rfl, rfl⟩ := h₁.unique h₁'
      obtain ⟨rfl, rfl⟩ := h₂.unique h₂'
      obtain ⟨rfl, rfl⟩ := h₃.unique h₃'
      obtain ⟨rfl, rfl⟩ := h₄.unique h₄'
      exact ⟨rfl, rfl⟩

end

/-- The tree of a template is what is read from it. -/
theorem ReadsBody.read_eq (h : ReadsBody none false template body left) : .read template = body :=
  (h.unique (reads_read template)).1

/-! ## Reading one thing after another -/

theorem read_nil : Body.read [] = .done .closed := by
  have h : ReadsBody none false [] (.done .closed) [] := .atEnd
  exact h.read_eq

/-- At the end a backslash stands for itself. -/
theorem read_backslash : Body.read ['\\'] = .backslash (.done .closed) := by
  have h : ReadsBody none false ['\\'] (.backslash (.done .closed)) [] := .backslash nofun
  exact h.read_eq

theorem read_char (hescape : c ≠ '\\') (hdollar : c = '$' → ¬ OpensTag cs) :
    Body.read (c :: cs) = .char c (.read cs) := by
  have h : ReadsBody none false (c :: cs) _ [] := .char nofun hescape hdollar (reads_read cs)
  exact h.read_eq

theorem read_escaped (c : Char) (cs : List Char) :
    Body.read ('\\' :: c :: cs) = .escaped c (.read cs) := by
  have h : ReadsBody none false ('\\' :: c :: cs) _ [] := .escaped nofun (reads_read cs)
  exact h.read_eq

/-- A tag before the rest of a template. -/
theorem read_tag (htag : ReadsTag cs tag rest) (hclosed : tag.isClosed = true) :
    ∃ length, Body.read ('$' :: cs) = .tag tag length (.read rest) := by
  have hrest := reads_read rest
  have hcutOff : (!tag.isClosed) = false := congrArg not hclosed
  rw [← hcutOff] at hrest
  have h : ReadsBody none false ('$' :: cs) _ [] := .tag nofun htag hrest
  exact ⟨_, h.read_eq⟩

end Placard.Template
