import Placard.Config.Override

/-! # Overrides and aliases

A configuration is made of its fields (`Config.ext_get`): one for each property, and three that no
entry designates. An override that is refused leaves all of them as they were, and any other one
assigns a single field (`Config.Edit.run_override_cases`). So an override need not be given twice,
and overrides of different properties may come in any order (`Config.edits_local`). -/

namespace Placard

/-! ## Properties and their values -/

namespace Property

/-- The full name of a property. -/
def name : Property → String
  | sourcePath => "config.source-path"
  | titleSep => "config.title-sep"
  | sepReset => "config.sep-reset"
  | sepResetAfter => "config.sep-reset-after"
  | logoPosition => "config.logo-position"
  | offset => "config.offset"
  | logoPaddingLeft => "config.logo-padding-left"
  | logoPaddingTop => "config.logo-padding-top"
  | layoutPaddingTop => "config.layout-padding-top"
  | useSiByteUnit => "config.use-SI-byte-unit"
  | disableSource => "config.disable-source"
  | disableColors => "config.disable-colors"
  | percentageColors => "config.percentage-colors"
  | diskFormat => "auto.disk.fmt"
  | diskTypes => "auto.disk.display-types"
  | diskDuplicated => "auto.disk.show-duplicated"
  | uptimeDays => "os.uptime.days"
  | uptimeHours => "os.uptime.hours"
  | uptimeMins => "os.uptime.mins"
  | uptimeSecs => "os.uptime.secs"
  | palette color => "palette." ++ color.name

theorem ofName?_name (property : Property) : ofName? property.name = some property := by
  cases property with
  | palette color => cases color <;> rfl
  | _ => rfl

theorem name_of_ofName? {property : Property} {word : String} (h : ofName? word = some property) :
    property.name = word := by
  unfold ofName? at h
  split at h
  case h_21 =>
    obtain ⟨color, hfind, rfl⟩ := Option.map_eq_some_iff.mp h
    have hname := List.find?_some hfind
    exact of_decide_eq_true hname
  all_goals
    cases h
    rfl

theorem name_injective {property other : Property} (h : property.name = other.name) :
    property = other := by
  have hname := congrArg ofName? h
  rw [ofName?_name, ofName?_name] at hname
  exact Option.some.inj hname

/-- What a property holds. -/
def Value : Property → Type
  | sepResetAfter | useSiByteUnit | disableSource | disableColors | diskDuplicated => Bool
  | offset | logoPaddingLeft | logoPaddingTop | layoutPaddingTop => Nat
  | logoPosition => LogoPosition
  | percentageColors => PercentageColors
  | diskTypes => VolumeTypes
  | sourcePath | titleSep | sepReset | diskFormat | uptimeDays | uptimeHours | uptimeMins
  | uptimeSecs | palette _ => String

/-- The value that a text stands for; `name` is for the refusal. -/
def read (name text : String) : (property : Property) → Except Failure property.Value
  | sepResetAfter | useSiByteUnit | disableSource | disableColors | diskDuplicated =>
    readSwitch name text
  | offset | logoPaddingLeft | logoPaddingTop | layoutPaddingTop => readAmount name text
  | logoPosition => LogoPosition.parse text
  | percentageColors => readPercentageColors name text
  | diskTypes => VolumeTypes.parse text
  | sourcePath | titleSep | sepReset | diskFormat | uptimeDays | uptimeHours | uptimeMins
  | uptimeSecs | palette _ => .ok text

end Property

/-! ## Fields -/

attribute [ext] Palette AutoDisk UptimeSuffixes Config

theorem Palette.ext_get {palette other : Palette}
    (h : ∀ color, palette.get color = other.get color) : palette = other :=
  Palette.ext (h .black) (h .red) (h .green) (h .yellow) (h .blue) (h .magenta) (h .cyan) (h .white)

namespace Config

/-- The fields of a configuration. No property stands for the first three. -/
inductive Field where
  | layout
  | aliasColors
  | printLogoOnly
  | setting (property : Property)

def Field.Value : Field → Type
  | layout => List String
  | aliasColors => List (String × String)
  | printLogoOnly => Bool
  | setting property => property.Value

def get (config : Config) : (field : Field) → field.Value
  | .layout => config.layout
  | .aliasColors => config.aliasColors
  | .printLogoOnly => config.printLogoOnly
  | .setting .sourcePath => config.sourcePath
  | .setting .titleSep => config.titleSep
  | .setting .sepReset => config.sepReset
  | .setting .sepResetAfter => config.sepResetAfter
  | .setting .logoPosition => config.logoPosition
  | .setting .offset => config.offset
  | .setting .logoPaddingLeft => config.logoPaddingLeft
  | .setting .logoPaddingTop => config.logoPaddingTop
  | .setting .layoutPaddingTop => config.layoutPaddingTop
  | .setting .useSiByteUnit => config.useSiByteUnit
  | .setting .disableSource => config.disableSource
  | .setting .disableColors => config.disableColors
  | .setting .percentageColors => config.percentageColors
  | .setting .diskFormat => config.autoDisk.format
  | .setting .diskTypes => config.autoDisk.displayTypes
  | .setting .diskDuplicated => config.autoDisk.showDuplicated
  | .setting .uptimeDays => config.uptime.days
  | .setting .uptimeHours => config.uptime.hours
  | .setting .uptimeMins => config.uptime.mins
  | .setting .uptimeSecs => config.uptime.secs
  | .setting (.palette color) => config.palette.get color

/-- The configuration with another value of one property. -/
def put (config : Config) : (property : Property) → property.Value → Config
  | .sourcePath, value => { config with sourcePath := value }
  | .titleSep, value => { config with titleSep := value }
  | .sepReset, value => { config with sepReset := value }
  | .sepResetAfter, value => { config with sepResetAfter := value }
  | .logoPosition, value => { config with logoPosition := value }
  | .offset, value => { config with offset := value }
  | .logoPaddingLeft, value => { config with logoPaddingLeft := value }
  | .logoPaddingTop, value => { config with logoPaddingTop := value }
  | .layoutPaddingTop, value => { config with layoutPaddingTop := value }
  | .useSiByteUnit, value => { config with useSiByteUnit := value }
  | .disableSource, value => { config with disableSource := value }
  | .disableColors, value => { config with disableColors := value }
  | .percentageColors, value => { config with percentageColors := value }
  | .diskFormat, value => { config with autoDisk.format := value }
  | .diskTypes, value => { config with autoDisk.displayTypes := value }
  | .diskDuplicated, value => { config with autoDisk.showDuplicated := value }
  | .uptimeDays, value => { config with uptime.days := value }
  | .uptimeHours, value => { config with uptime.hours := value }
  | .uptimeMins, value => { config with uptime.mins := value }
  | .uptimeSecs, value => { config with uptime.secs := value }
  | .palette color, value => { config with palette := config.palette.set value color }

variable {config other : Config} {property : Property}

/-- Nothing is in a configuration but its fields. -/
theorem ext_get (h : ∀ field, config.get field = other.get field) : config = other := by
  have hset (property : Property) :
      config.get (.setting property) = other.get (.setting property) := h (.setting property)
  have hpalette : config.palette = other.palette :=
    Palette.ext_get fun color => hset (.palette color)
  have hdisk : config.autoDisk = other.autoDisk :=
    AutoDisk.ext (hset .diskFormat) (hset .diskTypes) (hset .diskDuplicated)
  have huptime : config.uptime = other.uptime :=
    UptimeSuffixes.ext (hset .uptimeDays) (hset .uptimeHours) (hset .uptimeMins) (hset .uptimeSecs)
  exact Config.ext (h .layout) (hset .sourcePath) (hset .titleSep) (hset .sepReset)
    (hset .sepResetAfter) (hset .logoPosition) (hset .offset) (hset .logoPaddingLeft)
    (hset .logoPaddingTop) (hset .layoutPaddingTop) (hset .useSiByteUnit) (h .aliasColors)
    (hset .percentageColors) hpalette hdisk huptime (hset .disableSource) (hset .disableColors)
    (h .printLogoOnly)

theorem get_put (config : Config) (property other : Property) (value : property.Value) :
    (config.put property value).get (.setting other) =
      if h : property = other then h ▸ value else config.get (.setting other) := by
  cases property with
  | palette color =>
    cases other with
    | palette color' =>
      have hset := Palette.get_set config.palette value color color'
      by_cases h : color = color'
      · subst h
        rw [dif_pos rfl]
        exact hset.trans (if_pos rfl)
      · rw [dif_neg fun heq => h (Property.palette.inj heq)]
        exact hset.trans (if_neg h)
    | _ => rfl
  | _ => cases other <;> rfl

theorem get_put_self (config : Config) (property : Property) (value : property.Value) :
    (config.put property value).get (.setting property) = value :=
  (get_put config property property value).trans (dif_pos rfl)

/-- All fields but one are left alone. -/
theorem get_put_of_ne {field : Field} (h : field ≠ .setting property) (value : property.Value) :
    (config.put property value).get field = config.get field := by
  cases field with
  | setting other =>
    have hne : property ≠ other := fun heq => h (heq ▸ rfl)
    exact (get_put config property other value).trans (dif_neg hne)
  | _ => cases property <;> rfl

theorem put_put (config : Config) (property : Property) (value : property.Value) :
    (config.put property value).put property value = config.put property value := by
  refine ext_get fun field => ?_
  by_cases h : field = .setting property
  · subst h
    rw [get_put_self, get_put_self]
  · rw [get_put_of_ne h]

theorem put_comm (config : Config) {property other : Property} (h : property ≠ other)
    (value : property.Value) (value' : other.Value) :
    (config.put property value).put other value' =
      (config.put other value').put property value := by
  have hne : Field.setting property ≠ .setting other := fun heq => h (Field.setting.inj heq)
  refine ext_get fun field => ?_
  by_cases hproperty : field = .setting property
  · subst hproperty
    rw [get_put_of_ne hne, get_put_self, get_put_self]
  · rw [get_put_of_ne hproperty]
    by_cases hother : field = .setting other
    · subst hother
      rw [get_put_self, get_put_self]
    · rw [get_put_of_ne hother, get_put_of_ne hother, get_put_of_ne hproperty]

end Config

/-! ## Entries -/

/-- An entry whose first equals sign stands between `name` and `text`. -/
structure IsEntry (entry name text : String) : Prop where
  eq : entry = name ++ "=" ++ text
  not_mem : '=' ∉ name.toList

variable {entry name text : String}

theorem IsEntry.splitEntry_eq (h : IsEntry entry name text) (kind : EntryKind) :
    splitEntry kind entry = .ok (name, text) := by
  have hlist : entry.toList = name.toList ++ '=' :: text.toList := by
    rw [h.eq, String.toList_append, String.toList_append, List.append_assoc]
    rfl
  rw [splitEntry, hlist, Text.splitOnce?_append h.not_mem]
  simp only [String.ofList_toList]

theorem splitEntry_of_not_mem (h : '=' ∉ entry.toList) (kind : EntryKind) :
    splitEntry kind entry = .error (.missingSeparator kind entry) := by
  rw [splitEntry, Text.splitOnce?_of_not_mem h]

/-- Any equals sign makes an entry. -/
theorem exists_isEntry (h : '=' ∈ entry.toList) : ∃ name text, IsEntry entry name text := by
  obtain ⟨name, text, heq, hname⟩ := List.eq_append_cons_of_mem h
  refine ⟨.ofList name, .ofList text, ?_, by rwa [String.toList_ofList]⟩
  rw [← String.toList_inj, heq]
  simp only [String.toList_append, String.toList_ofList, List.append_assoc]
  rfl

theorem IsEntry.unique {name' text' : String} (h : IsEntry entry name text)
    (h' : IsEntry entry name' text') : name = name' ∧ text = text' := by
  have hsplit := (h.splitEntry_eq .overrideOption).symm.trans (h'.splitEntry_eq .overrideOption)
  exact Prod.mk.inj (Except.ok.inj hsplit)

/-! ## Refused texts -/

theorem eq_of_readSwitch {failure : Failure} (h : readSwitch name text = .error failure) :
    failure = .invalidValue name text := by
  unfold readSwitch at h
  split at h
  all_goals cases h
  rfl

theorem eq_of_readAmount {failure : Failure} (h : readAmount name text = .error failure) :
    failure = .invalidValue name text := by
  unfold readAmount at h
  split at h
  all_goals cases h
  rfl

theorem eq_of_readPercentageColors {failure : Failure}
    (h : readPercentageColors name text = .error failure) : failure = .invalidValue name text := by
  unfold readPercentageColors at h
  split at h
  all_goals cases h
  rfl

theorem LogoPosition.eq_of_parse {failure : Failure} (h : parse text = .error failure) :
    failure = .invalidValue "config.logo-position" text := by
  unfold parse at h
  split at h
  all_goals cases h
  rfl

/-- Some word of the list is refused. -/
theorem VolumeTypes.exists_of_parse {failure : Failure} (h : parse text = .error failure) :
    ∃ word, failure = .invalidValue "auto.disk.display-types" word := by
  unfold parse at h
  generalize ({} : VolumeTypes) = types, words text = list at h
  induction list generalizing types with
  | nil => cases h
  | cons word words ih =>
    rw [List.foldlM_cons] at h
    cases hword : ofWord? word with
    | none =>
      rw [hword] at h
      exact ⟨word, (Except.error.inj h).symm⟩
    | some type =>
      rw [hword] at h
      exact ih _ h

/-- A text that a property does not take is refused under the name of the property. -/
theorem Property.exists_of_read {property : Property} {failure : Failure}
    (h : property.read property.name text = .error failure) :
    ∃ shown, failure = .invalidValue property.name shown := by
  cases property with
  | sepResetAfter | useSiByteUnit | disableSource | disableColors | diskDuplicated =>
    exact ⟨text, eq_of_readSwitch h⟩
  | offset | logoPaddingLeft | logoPaddingTop | layoutPaddingTop => exact ⟨text, eq_of_readAmount h⟩
  | logoPosition => exact ⟨text, LogoPosition.eq_of_parse h⟩
  | percentageColors => exact ⟨text, eq_of_readPercentageColors h⟩
  | diskTypes => exact VolumeTypes.exists_of_parse h
  | _ => cases h

namespace Config

/-! ## Overrides -/

/-- The entry is one for this property. -/
def Designates (entry : String) (property : Property) : Prop :=
  ∃ name text, IsEntry entry name text ∧ qualify name = property.name

/-- The entry gives the property this value. -/
def Assigns (entry : String) (property : Property) (value : property.Value) : Prop :=
  ∃ name text, IsEntry entry name text ∧ qualify name = property.name ∧
    property.read property.name text = .ok value

/-- What an entry that assigns nothing is refused for. -/
inductive Refused (entry : String) : Failure → Prop
  | unsplit (h : '=' ∉ entry.toList) : Refused entry (.missingSeparator .overrideOption entry)
  | unknown {name text : String} (h : IsEntry entry name text)
    (hname : ∀ property : Property, property.name ≠ qualify name) :
    Refused entry (.unknownProperty (qualify name))
  | unreadable {name text shown : String} {property : Property} (h : IsEntry entry name text)
    (hname : qualify name = property.name)
    (hread : property.read property.name text = .error (.invalidValue property.name shown)) :
    Refused entry (.invalidValue property.name shown)

variable {property : Property} {value : property.Value} {failure : Failure}

theorem Assigns.designates (h : Assigns entry property value) : Designates entry property := by
  obtain ⟨name, text, hentry, hname, -⟩ := h
  exact ⟨name, text, hentry, hname⟩

theorem Designates.unique {other : Property} (h : Designates entry property)
    (h' : Designates entry other) : property = other := by
  obtain ⟨name, text, hentry, hname⟩ := h
  obtain ⟨name', text', hentry', hname'⟩ := h'
  obtain ⟨rfl, -⟩ := hentry.unique hentry'
  exact Property.name_injective (hname.symm.trans hname')

theorem edited_of_ok {edit : Edit} {config after : Config}
    (h : edit.run config = (.ok (), after)) : config.edited edit = .ok after := by
  rw [edited, h]

theorem edited_of_error {edit : Edit} {config after : Config}
    (h : edit.run config = (.error failure, after)) : config.edited edit = .error failure := by
  rw [edited, h]

namespace Edit

theorem run_assign {α : Type} (reading : Except Failure α) (place : Config → α → Config)
    (config : Config) : (assign reading place).run config =
      match reading with
      | .ok value => (.ok (), place config value)
      | .error failure => (.error failure, config) := by
  cases reading <;> rfl

/-- The value of a property is read before it is assigned. -/
theorem set_eq (property : Property) (name text : String) :
    set property name text = assign (property.read name text) (·.put property ·) := by
  cases property <;> rfl

theorem override_of_isEntry (h : IsEntry entry name text) :
    override entry =
      match Property.ofName? (qualify name) with
      | some property => set property (qualify name) text
      | none => throw (.unknownProperty (qualify name)) := by
  unfold override
  rw [h.splitEntry_eq]
  rfl

/-- An override of a property assigns what its text reads as. -/
theorem override_of_property (h : IsEntry entry name text) (hname : qualify name = property.name) :
    override entry = assign (property.read property.name text) (·.put property ·) := by
  rw [override_of_isEntry h, hname, Property.ofName?_name]
  exact set_eq property property.name text

theorem run_override_of_assigns (h : Assigns entry property value) (config : Config) :
    (override entry).run config = (.ok (), config.put property value) := by
  obtain ⟨name, text, hentry, hname, hread⟩ := h
  rw [override_of_property hentry hname, run_assign, hread]

theorem run_override_of_refused (h : Refused entry failure) (config : Config) :
    (override entry).run config = (.error failure, config) := by
  cases h with
  | unsplit h =>
    unfold override
    rw [splitEntry_of_not_mem h]
    rfl
  | unknown h hname =>
    have hnone : Property.ofName? (qualify _) = none :=
      Option.eq_none_iff_forall_ne_some.mpr fun property hproperty =>
        hname property (Property.name_of_ofName? hproperty)
    rw [override_of_isEntry h, hnone]
    rfl
  | unreadable h hname hread =>
    rw [override_of_property h hname, run_assign, hread]

end Edit

/-- An entry assigns a value, or there is a reason why it does not. -/
theorem assigns_or_refused (entry : String) :
    (∃ property value, Assigns entry property value) ∨ ∃ failure, Refused entry failure := by
  by_cases hmem : '=' ∈ entry.toList
  · obtain ⟨name, text, hentry⟩ := exists_isEntry hmem
    by_cases hproperty : ∃ property : Property, property.name = qualify name
    · obtain ⟨property, hname⟩ := hproperty
      cases hread : property.read property.name text with
      | ok value => exact .inl ⟨property, value, name, text, hentry, hname.symm, hread⟩
      | error failure =>
        obtain ⟨shown, rfl⟩ := Property.exists_of_read hread
        exact .inr ⟨_, .unreadable hentry hname.symm hread⟩
    · exact .inr ⟨_, .unknown hentry fun property hname => hproperty ⟨property, hname⟩⟩
  · exact .inr ⟨_, .unsplit hmem⟩

theorem exists_assigns_of_run {config after : Config}
    (h : (Edit.override entry).run config = (.ok (), after)) :
    ∃ property value, Assigns entry property value ∧ after = config.put property value := by
  obtain ⟨property, value, hassigns⟩ | ⟨failure, hrefused⟩ := assigns_or_refused entry
  · refine ⟨property, value, hassigns, ?_⟩
    rw [Edit.run_override_of_assigns hassigns] at h
    exact (Prod.mk.inj h).2.symm
  · rw [Edit.run_override_of_refused hrefused] at h
    cases h

/-! ## Aliases -/

theorem Edit.run_alias_of_isEntry (h : IsEntry entry name text) (config : Config) :
    (Edit.alias entry).run config =
      (.ok (), { config with aliasColors := config.aliasColors ++ [(name, text)] }) := by
  unfold Edit.alias
  rw [h.splitEntry_eq]
  rfl

theorem Edit.run_alias_of_not_mem (h : '=' ∉ entry.toList) (config : Config) :
    (Edit.alias entry).run config = (.error (.missingSeparator .aliasColor entry), config) := by
  unfold Edit.alias
  rw [splitEntry_of_not_mem h]
  rfl

/-- The alias added last is the one of its name, and hides no other. -/
theorem alias?_append (config : Config) (name text word : String) :
    { config with aliasColors := config.aliasColors ++ [(name, text)] }.alias? word =
      if name = word then some text else config.alias? word := by
  unfold alias?
  rw [List.reverse_append, List.reverse_singleton, List.singleton_append, List.find?_cons]
  by_cases h : name = word
  · simp [h]
  · simp [h]

/-! ## The main statement -/

/-- An override that is refused changes nothing, and any other one gives the property that it
designates the value of its text and leaves all other fields alone. Given again it changes nothing
more, and two overrides of different properties that succeed each give the same in either order. An
alias is refused only for want of an equals sign, and then changes nothing. Otherwise it is what
its name stands for, and all other names stand for what they did. -/
theorem edits_local (config : Config) (entry : String) :
    ((∃ failure, Refused entry failure ∧
        (Edit.override entry).run config = (.error failure, config) ∧
        config.applyOverride entry = .error failure) ∨
      ∃ property value after, Assigns entry property value ∧
        (Edit.override entry).run config = (.ok (), after) ∧
        config.applyOverride entry = .ok after ∧
        after.get (.setting property) = value ∧
        (∀ field, field ≠ .setting property → after.get field = config.get field) ∧
        (Edit.override entry).run after = (.ok (), after)) ∧
    (∀ other property property' after after',
      Designates entry property → Designates other property' → property ≠ property' →
      (Edit.override entry).run config = (.ok (), after) →
      (Edit.override other).run config = (.ok (), after') →
      ∃ both, (Edit.override other).run after = (.ok (), both) ∧
        (Edit.override entry).run after' = (.ok (), both)) ∧
    ('=' ∉ entry.toList ∧
        (Edit.alias entry).run config = (.error (.missingSeparator .aliasColor entry), config) ∧
        config.addAlias entry = .error (.missingSeparator .aliasColor entry) ∨
      ∃ name text after, IsEntry entry name text ∧
        (Edit.alias entry).run config = (.ok (), after) ∧
        config.addAlias entry = .ok after ∧
        after.alias? name = some text ∧
        (∀ word, word ≠ name → after.alias? word = config.alias? word) ∧
        ∀ field, field ≠ .aliasColors → after.get field = config.get field) := by
  refine ⟨?_, ?_, ?_⟩
  · obtain ⟨property, value, hassigns⟩ | ⟨failure, hrefused⟩ := assigns_or_refused entry
    · have hrun := Edit.run_override_of_assigns hassigns config
      refine .inr ⟨property, value, config.put property value, hassigns, hrun, edited_of_ok hrun,
        get_put_self config property value, fun field hfield => get_put_of_ne hfield value, ?_⟩
      rw [Edit.run_override_of_assigns hassigns, put_put]
    · have hrun := Edit.run_override_of_refused hrefused config
      exact .inl ⟨failure, hrefused, hrun, edited_of_error hrun⟩
  · intro other property property' after after' hdesignates hdesignates' hne hrun hrun'
    obtain ⟨p, value, hassigns, rfl⟩ := exists_assigns_of_run hrun
    obtain ⟨q, value', hassigns', rfl⟩ := exists_assigns_of_run hrun'
    have hpq : p ≠ q := by
      rwa [hassigns.designates.unique hdesignates, hassigns'.designates.unique hdesignates']
    refine ⟨(config.put p value).put q value', Edit.run_override_of_assigns hassigns' _, ?_⟩
    rw [Edit.run_override_of_assigns hassigns, put_comm config hpq]
  · by_cases hmem : '=' ∈ entry.toList
    · obtain ⟨name, text, hentry⟩ := exists_isEntry hmem
      have hrun := Edit.run_alias_of_isEntry hentry config
      refine .inr ⟨name, text, _, hentry, hrun, edited_of_ok hrun, ?_, ?_, ?_⟩
      · exact (alias?_append config name text name).trans (if_pos rfl)
      · exact fun word hword => (alias?_append config name text word).trans (if_neg hword.symm)
      · intro field hfield
        cases field with
        | aliasColors => exact absurd rfl hfield
        | setting property => cases property <;> rfl
        | _ => rfl
    · have hrun := Edit.run_alias_of_not_mem hmem config
      exact .inl ⟨hmem, hrun, edited_of_error hrun⟩

/-- A list of colors and a color of the palette, whose value has an equals sign of its own. -/
theorem edits_local_colors :
    let colors : Config := { percentageColors := ⟨"blue", "b=c", "cyan"⟩ }
    let red : Config := { palette := { red := "!#f=0" } }
    Designates "percentage-colors= blue,b=c , cyan" .percentageColors ∧
    Designates "palette.red=!#f=0" (.palette .red) ∧
    (Edit.override "percentage-colors= blue,b=c , cyan").run {} = (.ok (), colors) ∧
    (Edit.override "palette.red=!#f=0").run {} = (.ok (), red) ∧
    ∃ both, (Edit.override "palette.red=!#f=0").run colors = (.ok (), both) ∧
      (Edit.override "percentage-colors= blue,b=c , cyan").run red = (.ok (), both) := by
  intro colors red
  have hcolors : Assigns "percentage-colors= blue,b=c , cyan" .percentageColors
      (colors.percentageColors : PercentageColors) :=
    ⟨"percentage-colors", " blue,b=c , cyan", ⟨by decide, by decide⟩, by decide, rfl⟩
  have hred : Assigns "palette.red=!#f=0" (.palette .red) (red.palette.red : String) :=
    ⟨"palette.red", "!#f=0", ⟨by decide, by decide⟩, by decide, rfl⟩
  have hrun := Edit.run_override_of_assigns hcolors {}
  have hrun' := Edit.run_override_of_assigns hred {}
  exact ⟨hcolors.designates, hred.designates, hrun, hrun', (edits_local {} _).2.1 _ _ _ _ _
    hcolors.designates hred.designates (by decide) hrun hrun'⟩

end Config
end Placard
