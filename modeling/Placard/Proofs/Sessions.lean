import Placard.Provider.Environment

/-! # Answers in the course of a session

While a session goes on its variables and its machine may change, and a provider that remembers what
it read tells what was so at the first reading (`Environment.answer_of_remembered`), up to the next
clearing. The provider here does so for all queries but the themes. These are what the variables say
at each time, so two answers about a theme differ as soon as one of its variables does
(`Environment.answers_of_session`). -/

namespace Placard

/-! ## What a theme is read from -/

theorem ThemeInfo.ofVariables_inj {vars later : Variables} :
    ofVariables vars = ofVariables later ↔
      vars.value? "XCURSOR_THEME" = later.value? "XCURSOR_THEME" ∧
        vars.value? "XCURSOR_SIZE" = later.value? "XCURSOR_SIZE" := by
  constructor
  · intro h
    exact ⟨congrArg ThemeInfo.cursor h, congrArg ThemeInfo.cursorSize h⟩
  · rintro ⟨htheme, hsize⟩
    unfold ofVariables
    rw [htheme, hsize]

theorem GtkThemeInfo.ofVariables_inj {vars later : Variables} :
    ofVariables vars = ofVariables later ↔ vars.value? "GTK_THEME" = later.value? "GTK_THEME" := by
  constructor
  · exact congrArg GtkThemeInfo.name
  · intro h
    unfold ofVariables
    rw [h]

/-- The query is about a theme. -/
def Query.IsTheme : Query → Prop
  | .theme | .gtkTheme _ => True
  | _ => False

namespace Environment

/-! ## Sessions -/

/-- What happens in a session: a variable is set or taken away, the machine changes, something is
asked, or all that is remembered is forgotten. -/
inductive Event where
  | set (name : String) (value : Option String)
  | change (machine : Machine)
  | ask (query : Query)
  | clear

def step (environment : Environment) : Event → Environment
  | .set name value => { environment with vars := environment.vars.set name value }
  | .change machine => { environment with machine }
  | .ask query => (environment.ask query).2
  | .clear => Provider.clear environment

def after (environment : Environment) (events : List Event) : Environment :=
  events.foldl step environment

/-- The variables as the session leaves them. -/
def varsAfter (vars : Variables) : List Event → Variables
  | [] => vars
  | .set name value :: events => varsAfter (vars.set name value) events
  | .change _ :: events | .ask _ :: events | .clear :: events => varsAfter vars events

/-- An answer, and the variables when it was given. -/
structure Reply where
  query : Query
  answer : query.Answer
  vars : Variables

/-- All answers that are given in a session. -/
def replies (environment : Environment) : List Event → List Reply
  | [] => []
  | .ask query :: events =>
    ⟨query, (environment.ask query).1, environment.vars⟩ ::
      replies (environment.step (.ask query)) events
  | .set name value :: events => replies (environment.step (.set name value)) events
  | .change machine :: events => replies (environment.step (.change machine)) events
  | .clear :: events => replies (environment.step .clear) events

/-- What is remembered of the answer to a query. That there is no adapter and no battery need not be
remembered, and a volume is found among all that were read. -/
def remembered (environment : Environment) : (query : Query) → Option query.Answer
  | .os => environment.os
  | .host => environment.host
  | .user => environment.user
  | .cpu => environment.cpu
  | .ram => environment.ram
  | .swap => environment.swap
  | .disk path => environment.volumes.map (·.find? (·.mountdir = path))
  | .volumes => environment.volumes
  | .gpu _ | .battery => some none
  | .theme | .gtkTheme _ => none

variable {environment : Environment} {events : List Event} {user : UserInfo} {vars : Variables}
  {query : Query}

/-! ## Single events -/

theorem vars_ask (environment : Environment) (query : Query) :
    (environment.ask query).2.vars = environment.vars := by
  cases query with
  | _ => rfl

theorem user_ask (environment : Environment) {query : Query} (h : query ≠ .user) :
    (environment.ask query).2.user = environment.user := by
  cases query with
  | user => exact absurd rfl h
  | _ => rfl

theorem getD_of_eq_some {slot : Option α} (h : slot = some a) (reading : α) :
    slot.getD reading = a := by
  rw [h]
  rfl

/-- What is remembered is the answer. -/
theorem ask_of_remembered {answer : query.Answer}
    (h : environment.remembered query = some answer) : (environment.ask query).1 = answer := by
  cases query with
  | os | host | user | cpu | ram | swap | volumes => exact getD_of_eq_some h _
  | disk path =>
    obtain ⟨volumes, hvolumes, rfl⟩ := Option.map_eq_some_iff.mp h
    exact congrArg (List.find? _) (getD_of_eq_some hvolumes _)
  | gpu | battery => exact Option.some.inj h
  | theme | gtkTheme => cases h

/-- An answer is remembered, unless it is about a theme. -/
theorem remembered_ask (environment : Environment) (hquery : ¬ query.IsTheme) :
    (environment.ask query).2.remembered query = some (environment.ask query).1 := by
  cases query with
  | theme | gtkTheme => exact absurd trivial hquery
  | _ => rfl

/-- Whatever is asked, what is remembered stays so. -/
theorem remembered_ask_of_eq_some {answer : query.Answer}
    (h : environment.remembered query = some answer) (other : Query) :
    (environment.ask other).2.remembered query = some answer := by
  have hvolumes : (environment.askVolumes).2.remembered query = some answer := by
    cases query with
    | volumes => exact congrArg some (getD_of_eq_some h _)
    | disk path =>
      obtain ⟨volumes, hvolumes, rfl⟩ := Option.map_eq_some_iff.mp h
      exact congrArg (Option.map _) (congrArg some (getD_of_eq_some hvolumes _))
    | _ => exact h
  cases other with
  | disk | volumes => exact hvolumes
  | gpu | battery | theme | gtkTheme => exact h
  | os =>
    cases query with
    | os => exact congrArg some (getD_of_eq_some h _)
    | _ => exact h
  | host =>
    cases query with
    | host => exact congrArg some (getD_of_eq_some h _)
    | _ => exact h
  | user =>
    cases query with
    | user => exact congrArg some (getD_of_eq_some h _)
    | _ => exact h
  | cpu =>
    cases query with
    | cpu => exact congrArg some (getD_of_eq_some h _)
    | _ => exact h
  | ram =>
    cases query with
    | ram => exact congrArg some (getD_of_eq_some h _)
    | _ => exact h
  | swap =>
    cases query with
    | swap => exact congrArg some (getD_of_eq_some h _)
    | _ => exact h

/-- An answer that is remembered stays so, unless all is forgotten. -/
theorem remembered_step {answer : query.Answer}
    (h : environment.remembered query = some answer) {event : Event} (hevent : event ≠ .clear) :
    (environment.step event).remembered query = some answer := by
  cases event with
  | set | change => cases query <;> exact h
  | clear => exact absurd rfl hevent
  | ask other => exact remembered_ask_of_eq_some h other

/-- Nothing but a question about the user makes the provider remember one. -/
theorem user_step_eq_none (huser : environment.user = none) {event : Event}
    (hevent : event ≠ .ask .user) : (environment.step event).user = none := by
  cases event with
  | set | change => exact huser
  | clear => rfl
  | ask query =>
    have hquery : query ≠ .user := fun h => hevent (congrArg Event.ask h)
    exact (user_ask environment hquery).trans huser

/-! ## Whole sessions -/

theorem after_cons (environment : Environment) (event : Event) (events : List Event) :
    environment.after (event :: events) = (environment.step event).after events := rfl

theorem after_append (environment : Environment) (events more : List Event) :
    environment.after (events ++ more) = (environment.after events).after more :=
  List.foldl_append

/-- Only setting a variable changes the variables. -/
theorem vars_after (environment : Environment) (events : List Event) :
    (environment.after events).vars = varsAfter environment.vars events := by
  induction events generalizing environment with
  | nil => rfl
  | cons event events ih =>
    rw [after_cons, ih]
    cases event with
    | set | change | clear => rfl
    | ask query =>
      change varsAfter (environment.ask query).2.vars events = _
      rw [vars_ask]
      rfl

theorem user_after_eq_none (huser : environment.user = none) (h : .ask .user ∉ events) :
    (environment.after events).user = none := by
  induction events generalizing environment with
  | nil => exact huser
  | cons event events ih =>
    obtain ⟨hevent, hevents⟩ := List.ne_and_not_mem_of_not_mem_cons h
    exact ih (user_step_eq_none huser (Ne.symm hevent)) hevents

/-- Every answer is given to a question of the session, in the state at that time. -/
theorem mem_replies {reply : Reply} (h : reply ∈ environment.replies events) :
    ∃ before more, events = before ++ .ask reply.query :: more ∧
      reply.answer = ((environment.after before).ask reply.query).1 ∧
      reply.vars = (environment.after before).vars := by
  induction events generalizing environment with
  | nil => cases h
  | cons event events ih =>
    have hlater (h : reply ∈ (environment.step event).replies events) :
        ∃ before more, event :: events = before ++ .ask reply.query :: more ∧
          reply.answer = ((environment.after before).ask reply.query).1 ∧
          reply.vars = (environment.after before).vars := by
      obtain ⟨before, more, rfl, hreply⟩ := ih h
      exact ⟨event :: before, more, rfl, hreply⟩
    cases event with
    | set | change | clear => exact hlater h
    | ask query =>
      obtain rfl | h := List.mem_cons.mp h
      · exact ⟨[], events, rfl, rfl, rfl⟩
      · exact hlater h

/-- What is remembered is the answer at any time, whatever the variables and the machine say. -/
theorem answer_of_remembered {answer : query.Answer}
    (hanswer : environment.remembered query = some answer) (hclear : .clear ∉ events)
    {given : query.Answer} (h : ⟨query, given, vars⟩ ∈ environment.replies events) :
    given = answer := by
  obtain ⟨before, more, rfl, hgiven, -⟩ := mem_replies h
  have hbefore : .clear ∉ before := fun hmem => hclear (List.mem_append_left _ hmem)
  have hremembered : (environment.after before).remembered query = some answer := by
    clear hgiven h hclear
    induction before generalizing environment with
    | nil => exact hanswer
    | cons event events ih =>
      obtain ⟨hevent, hevents⟩ := List.ne_and_not_mem_of_not_mem_cons hbefore
      exact ih (remembered_step hanswer (Ne.symm hevent)) hevents
  exact hgiven.trans (ask_of_remembered hremembered)

/-- Between two clearings all answers to a query are the same, unless it is about a theme. -/
theorem exists_answer (environment : Environment) (hquery : ¬ query.IsTheme)
    (hclear : .clear ∉ events) : ∃ answer : query.Answer, ∀ given vars,
      ⟨query, given, vars⟩ ∈ environment.replies events → given = answer := by
  induction events generalizing environment with
  | nil => exact ⟨(environment.ask query).1, fun _ _ h => nomatch h⟩
  | cons event events ih =>
    obtain ⟨hevent, hevents⟩ := List.ne_and_not_mem_of_not_mem_cons hclear
    cases event with
    | set | change => exact ih _ hevents
    | clear => exact absurd rfl hevent
    | ask other =>
      by_cases heq : other = query
      · subst heq
        refine ⟨(environment.ask other).1, fun given vars h => ?_⟩
        obtain h | h := List.mem_cons.mp h
        · cases h
          rfl
        · exact answer_of_remembered (remembered_ask environment hquery) hevents h
      · obtain ⟨answer, hanswer⟩ := ih (environment.step (.ask other)) hevents
        refine ⟨answer, fun given vars h => ?_⟩
        obtain h | h := List.mem_cons.mp h
        · cases h
          exact absurd rfl heq
        · exact hanswer given vars h

/-- As soon as all is forgotten the user is read anew. -/
theorem user_after_clear (environment : Environment) (events : List Event)
    {between : List Event} (h : .ask .user ∉ between) :
    ((environment.after (events ++ .clear :: between)).ask .user).1 =
      .ofVariables (varsAfter environment.vars (events ++ .clear :: between)) := by
  have hnone : (environment.after (events ++ .clear :: between)).user = none := by
    rw [after_append, after_cons]
    exact user_after_eq_none rfl h
  rw [← vars_after]
  change (environment.after (events ++ .clear :: between)).user.getD _ = _
  rw [hnone]
  rfl

theorem theme_of_mem_replies {answer : ThemeInfo}
    (h : ⟨.theme, answer, vars⟩ ∈ environment.replies events) : answer = .ofVariables vars := by
  obtain ⟨before, more, -, hanswer, hvars⟩ := mem_replies h
  exact hanswer.trans (congrArg ThemeInfo.ofVariables hvars.symm)

theorem gtkTheme_of_mem_replies {answer : GtkThemeInfo}
    (h : ⟨.gtkTheme version, answer, vars⟩ ∈ environment.replies events) :
    answer = .ofVariables vars := by
  obtain ⟨before, more, -, hanswer, hvars⟩ := mem_replies h
  exact hanswer.trans (congrArg GtkThemeInfo.ofVariables hvars.symm)

/-- All answers to a query are the same until all is forgotten, unless it is about a theme. The
first answer about the user after that is what the variables say by then. The themes are not
remembered: each answer is what the variables say when it is given, and two of them are the same
only if the variables that they are read from are. -/
theorem answers_of_session (environment : Environment) (events : List Event) :
    (.clear ∉ events → ∀ query : Query, ¬ query.IsTheme → ∀ first vars second later,
      ⟨query, first, vars⟩ ∈ environment.replies events →
      ⟨query, second, later⟩ ∈ environment.replies events → first = second) ∧
    (∀ between, .ask .user ∉ between →
      ((environment.after (events ++ .clear :: between)).ask .user).1 =
        .ofVariables (varsAfter environment.vars (events ++ .clear :: between))) ∧
    (∀ first vars second later,
      ⟨.theme, first, vars⟩ ∈ environment.replies events →
      ⟨.theme, second, later⟩ ∈ environment.replies events →
      first = .ofVariables vars ∧ second = .ofVariables later ∧
        (first = second ↔ vars.value? "XCURSOR_THEME" = later.value? "XCURSOR_THEME" ∧
          vars.value? "XCURSOR_SIZE" = later.value? "XCURSOR_SIZE")) ∧
    ∀ version first vars other second later,
      ⟨.gtkTheme version, first, vars⟩ ∈ environment.replies events →
      ⟨.gtkTheme other, second, later⟩ ∈ environment.replies events →
      first = .ofVariables vars ∧ second = .ofVariables later ∧
        (first = second ↔ vars.value? "GTK_THEME" = later.value? "GTK_THEME") := by
  refine ⟨fun hclear query hquery first vars second later hfirst hsecond => ?_,
    fun _ => user_after_clear environment events,
    fun first vars second later hfirst hsecond => ?_,
    fun version first vars other second later hfirst hsecond => ?_⟩
  · obtain ⟨answer, hanswer⟩ := exists_answer environment hquery hclear
    exact (hanswer first vars hfirst).trans (hanswer second later hsecond).symm
  · obtain rfl := theme_of_mem_replies hfirst
    obtain rfl := theme_of_mem_replies hsecond
    exact ⟨rfl, rfl, ThemeInfo.ofVariables_inj⟩
  · obtain rfl := gtkTheme_of_mem_replies hfirst
    obtain rfl := gtkTheme_of_mem_replies hsecond
    exact ⟨rfl, rfl, GtkThemeInfo.ofVariables_inj⟩

/-- The user is renamed, is asked for again, and then all is forgotten. The themes are asked for
before and after one of them changes. -/
theorem answers_of_session_renamed :
    let start : Environment := { vars := [("USER", "ann"), ("GTK_THEME", "Adwaita")] }
    let events : List Event := [.ask .user, .ask .theme, .ask (.gtkTheme 3),
      .set "USER" (some "eve"), .set "XCURSOR_THEME" (some "Breeze"), .ask .user, .ask .theme,
      .ask (.gtkTheme 4)]
    let renamed := varsAfter start.vars events
    (.clear ∉ events ∧ ∃ first second : UserInfo,
      ⟨.user, first, start.vars⟩ ∈ start.replies events ∧
      ⟨.user, second, renamed⟩ ∈ start.replies events ∧ first = second ∧ second.name = "ann") ∧
    (.ask .user ∉ ([] : List Event) ∧
      ((start.after (events ++ .clear :: [])).ask .user).1.name = "eve") ∧
    (∃ first second : ThemeInfo,
      ⟨.theme, first, start.vars⟩ ∈ start.replies events ∧
      ⟨.theme, second, renamed⟩ ∈ start.replies events ∧ first ≠ second) ∧
    ∃ first second : GtkThemeInfo,
      ⟨.gtkTheme 3, first, start.vars⟩ ∈ start.replies events ∧
      ⟨.gtkTheme 4, second, renamed⟩ ∈ start.replies events ∧ first = second := by
  intro start events renamed
  obtain ⟨huser, hcleared, htheme, hgtk⟩ := answers_of_session start events
  have hclear : Event.clear ∉ events := by simp [events]
  have hfirst : ⟨.user, (start.ask .user).1, start.vars⟩ ∈ start.replies events := .head _
  have hsecond : ⟨.user, (start.ask .user).1, renamed⟩ ∈ start.replies events :=
    .tail _ (.tail _ (.tail _ (.head _)))
  have htheme₁ : ⟨.theme, .ofVariables start.vars, start.vars⟩ ∈ start.replies events :=
    .tail _ (.head _)
  have htheme₂ : ⟨.theme, .ofVariables renamed, renamed⟩ ∈ start.replies events :=
    .tail _ (.tail _ (.tail _ (.tail _ (.head _))))
  have hgtk₁ : ⟨.gtkTheme 3, .ofVariables start.vars, start.vars⟩ ∈ start.replies events :=
    .tail _ (.tail _ (.head _))
  have hgtk₂ : ⟨.gtkTheme 4, .ofVariables renamed, renamed⟩ ∈ start.replies events :=
    .tail _ (.tail _ (.tail _ (.tail _ (.tail _ (.head _)))))
  have hnow := hcleared [] List.not_mem_nil
  refine ⟨⟨hclear, _, _, hfirst, hsecond, huser hclear .user id _ _ _ _ hfirst hsecond, by decide⟩,
    ⟨List.not_mem_nil, (congrArg UserInfo.name hnow).trans (by decide)⟩,
    ⟨_, _, htheme₁, htheme₂, fun h => ?_⟩, ⟨_, _, hgtk₁, hgtk₂, ?_⟩⟩
  · have hvars := ((htheme _ _ _ _ htheme₁ htheme₂).2.2.mp h).1
    revert hvars
    decide
  · exact (hgtk _ _ _ _ _ _ hgtk₁ hgtk₂).2.2.mpr (by decide)

/-- A theme is asked for twice with nothing forgotten between, and the answers differ. -/
theorem answers_ne_of_changed_theme :
    let events : List Event := [.set "XCURSOR_THEME" (some "Adwaita"),
      .set "GTK_THEME" (some "Adwaita"), .ask .theme, .ask (.gtkTheme 3),
      .set "XCURSOR_THEME" (some "Breeze"), .set "GTK_THEME" (some "Breeze"), .ask .theme,
      .ask (.gtkTheme 3)]
    .clear ∉ events ∧
    (∃ first vars second later,
      ⟨.theme, first, vars⟩ ∈ replies {} events ∧ ⟨.theme, second, later⟩ ∈ replies {} events ∧
      first.cursor = some "Adwaita" ∧ second.cursor = some "Breeze") ∧
    ∃ first vars second later,
      ⟨.gtkTheme 3, first, vars⟩ ∈ replies {} events ∧
      ⟨.gtkTheme 3, second, later⟩ ∈ replies {} events ∧
      first.name = some "Adwaita" ∧ second.name = some "Breeze" := by
  intro events
  have hclear : Event.clear ∉ events := by simp [events]
  exact ⟨hclear,
    ⟨_, _, _, _, .head _, .tail _ (.tail _ (.head _)), by decide, by decide⟩,
    ⟨_, _, _, _, .tail _ (.head _), .tail _ (.tail _ (.tail _ (.head _))), by decide, by decide⟩⟩

end Environment

end Placard
