import FluentSql.Config.Reader
import Mathlib.Data.List.Forall2
/-!
# `FluentSql.Proofs.AcceptedConfigs` — what an accepted configuration is

A configuration as written is first resolved: the references in its files and URLs are replaced, and one
that cannot be rejects it. What comes out is then checked. Both steps are functions; here they are said as
relations, and a configuration is accepted exactly if it resolves to one that is usable.

* `IsResolved` — a configuration as written, and the same with its references replaced;
* `IsUsable` — what is checked, for all connections at once;
* `accept_eq_ok_iff`, `exists_accept_eq_error_iff` — acceptance and rejection.
-/

namespace FluentSql.Config

open FluentSql.Text

/-! ## Resolving references -/

/-- **A setting and its expansion**: a setting that is missing stays so. -/
inductive Resolves (env : Environment) : Option String → Option String → Prop where
  | missing : Resolves env none none
  | given {text expanded : String} (h : expand env text = .ok expanded) :
      Resolves env (some text) (some expanded)

/-- **A connection as written, and resolved**: its file and its URL are, all else is kept. -/
structure SettingsResolve (env : Environment) (s resolved : ConnectionSettings) : Prop where
  database : Resolves env s.database resolved.database
  url : Resolves env s.url resolved.url
  kept : resolved = { s with database := resolved.database, url := resolved.url }

/-- **A configuration as written, and resolved**: connection by connection under their names. -/
structure IsResolved (env : Environment) (written c : Config) : Prop where
  connections : List.Forall₂ (fun entry resolved => resolved.1 = entry.1 ∧
    SettingsResolve env entry.2 resolved.2) written.connections c.connections
  kept : c = { written with connections := c.connections }

/-- **A reference that cannot be resolved**, in the file or the URL of a connection. -/
def HasBadReference (env : Environment) (written : Config) : Prop :=
  ∃ name s text fault, (name, s) ∈ written.connections ∧ (s.database = some text ∨ s.url = some text) ∧
    expand env text = .error fault

variable {env : Environment} {written c : Config}

/-! ## The steps of resolving -/

/-- Two steps go well if both do. -/
theorem bind_eq_ok_iff {ε α β : Type} {x : Except ε α} {f : α → Except ε β} {b : β} :
    x >>= f = .ok b ↔ ∃ a, x = .ok a ∧ f a = .ok b := by
  cases x with
  | error e => exact ⟨nofun, nofun⟩
  | ok a =>
    constructor
    · intro h
      exact ⟨a, rfl, h⟩
    · rintro ⟨_, ⟨⟩, h⟩
      exact h

/-- **Items mapped one after the other** all go well exactly if each does. -/
theorem mapM_eq_ok_iff {ε α β : Type} {f : α → Except ε β} {xs : List α} {ys : List β} :
    xs.mapM f = .ok ys ↔ List.Forall₂ (fun x y => f x = .ok y) xs ys := by
  induction xs generalizing ys with
  | nil =>
    rw [List.mapM_nil, List.forall₂_nil_left_iff]
    constructor
    · rintro ⟨⟩
      rfl
    · rintro rfl
      rfl
  | cons x xs ih =>
    rw [List.mapM_cons, List.forall₂_cons_left_iff, bind_eq_ok_iff]
    constructor
    · rintro ⟨y, hy, h⟩
      obtain ⟨ys', hys', ⟨⟩⟩ := bind_eq_ok_iff.mp h
      exact ⟨y, ys', hy, ih.mp hys', rfl⟩
    · rintro ⟨y, ys', hy, hys', rfl⟩
      exact ⟨y, hy, bind_eq_ok_iff.mpr ⟨ys', ih.mpr hys', rfl⟩⟩

theorem expandOption_eq_ok_iff {setting resolved : Option String} :
    expandOption env setting = .ok resolved ↔ Resolves env setting resolved := by
  cases setting with
  | none =>
    constructor
    · rintro ⟨⟩
      exact .missing
    · rintro ⟨⟩
      rfl
  | some text =>
    rw [expandOption]
    constructor
    · intro h
      cases hexpand : expand env text with
      | error fault =>
        rw [hexpand] at h
        cases h
      | ok expanded =>
        rw [hexpand] at h
        cases h
        exact .given hexpand
    · intro h
      cases h with
      | given hexpand =>
        rw [hexpand]
        rfl

theorem expandSettings_eq_ok_iff {s resolved : ConnectionSettings} :
    expandSettings env s = .ok resolved ↔ SettingsResolve env s resolved := by
  rw [expandSettings, bind_eq_ok_iff]
  constructor
  · rintro ⟨database, hdatabase, h⟩
    obtain ⟨url, hurl, ⟨⟩⟩ := bind_eq_ok_iff.mp h
    exact ⟨expandOption_eq_ok_iff.mp hdatabase, expandOption_eq_ok_iff.mp hurl, rfl⟩
  · rintro ⟨hdatabase, hurl, hkept⟩
    refine ⟨_, expandOption_eq_ok_iff.mpr hdatabase, ?_⟩
    rw [bind_eq_ok_iff]
    exact ⟨_, expandOption_eq_ok_iff.mpr hurl, congrArg Except.ok hkept.symm⟩

/-- **What resolving a configuration comes to.** -/
theorem expandAll_eq_ok_iff : written.expandAll env = .ok c ↔ IsResolved env written c := by
  have hentry (entry resolved : String × ConnectionSettings) :
      (do return (entry.1, ← expandSettings env entry.2) : Except ConfigFault _) = .ok resolved ↔
        resolved.1 = entry.1 ∧ SettingsResolve env entry.2 resolved.2 := by
    rw [bind_eq_ok_iff]
    constructor
    · rintro ⟨s, hs, ⟨⟩⟩
      exact ⟨rfl, expandSettings_eq_ok_iff.mp hs⟩
    · rintro ⟨hname, hs⟩
      exact ⟨resolved.2, expandSettings_eq_ok_iff.mpr hs, congrArg Except.ok (Prod.ext hname.symm rfl)⟩
  rw [expandAll, bind_eq_ok_iff]
  simp only [mapM_eq_ok_iff, hentry]
  constructor
  · rintro ⟨connections, hconnections, ⟨⟩⟩
    exact ⟨hconnections, rfl⟩
  · rintro ⟨hconnections, hkept⟩
    exact ⟨c.connections, hconnections, congrArg Except.ok hkept.symm⟩

/-! ## Bad references -/

/-- A setting resolves unless it is a text with a reference that does not. -/
theorem exists_resolves_iff {setting : Option String} :
    (∃ resolved, Resolves env setting resolved) ↔
      ∀ text fault, setting = some text → expand env text ≠ .error fault := by
  constructor
  · rintro ⟨_, h⟩ text fault rfl herror
    cases h with
    | given hexpand =>
      rw [hexpand] at herror
      cases herror
  · intro h
    cases setting with
    | none => exact ⟨none, .missing⟩
    | some text =>
      cases hexpand : expand env text with
      | error fault => exact absurd hexpand (h text fault rfl)
      | ok expanded => exact ⟨some expanded, .given hexpand⟩

/-- A list is related to some list if each of its items is related to something. -/
theorem exists_forall₂_iff {α β : Type} {R : α → β → Prop} {xs : List α} :
    (∃ ys, List.Forall₂ R xs ys) ↔ ∀ x ∈ xs, ∃ y, R x y := by
  induction xs with
  | nil =>
    constructor
    · intro _ x hx
      cases hx
    · intro _
      exact ⟨[], .nil⟩
  | cons x xs ih =>
    rw [List.forall_mem_cons, ← ih]
    constructor
    · rintro ⟨_, hx | ⟨hx, hxs⟩⟩
      exact ⟨⟨_, hx⟩, _, hxs⟩
    · rintro ⟨⟨y, hx⟩, ys, hxs⟩
      exact ⟨y :: ys, .cons hx hxs⟩

/-- **A configuration resolves unless one of its references does not.** -/
theorem exists_isResolved_iff : (∃ c, IsResolved env written c) ↔ ¬ HasBadReference env written := by
  have hconnections : (∃ c, IsResolved env written c) ↔ ∀ entry ∈ written.connections,
      (∃ database, Resolves env entry.2.database database) ∧ ∃ url, Resolves env entry.2.url url := by
    trans ∀ entry ∈ written.connections, ∃ resolved : String × ConnectionSettings,
      resolved.1 = entry.1 ∧ SettingsResolve env entry.2 resolved.2
    · rw [← exists_forall₂_iff]
      constructor
      · rintro ⟨c, hc⟩
        exact ⟨_, hc.connections⟩
      · rintro ⟨connections, h⟩
        exact ⟨{ written with connections }, h, rfl⟩
    · refine forall₂_congr fun entry _ => ?_
      constructor
      · rintro ⟨resolved, -, hs⟩
        exact ⟨⟨_, hs.database⟩, _, hs.url⟩
      · rintro ⟨⟨database, hdatabase⟩, url, hurl⟩
        exact ⟨(entry.1, { entry.2 with database, url }), rfl, hdatabase, hurl, rfl⟩
  rw [hconnections]
  simp only [exists_resolves_iff]
  constructor
  · rintro h ⟨name, s, text, fault, hmem, hdatabase | hurl, hfault⟩
    · exact (h (name, s) hmem).1 text fault hdatabase hfault
    · exact (h (name, s) hmem).2 text fault hurl hfault
  · rintro h ⟨name, s⟩ hmem
    constructor
    · intro text fault hdatabase hfault
      exact h ⟨name, s, text, fault, hmem, .inl hdatabase, hfault⟩
    · intro text fault hurl hfault
      exact h ⟨name, s, text, fault, hmem, .inr hurl, hfault⟩

/-! ## Checking -/

/-- **A setting that is given**: it is there and not blank. -/
def IsGiven (setting : Option String) : Prop :=
  ∃ text, setting = some text ∧ ∃ c ∈ text.toList, isBlank c = false

/-- **A configuration that can be used**: the default connection is one of its own, a database in a file
    has a file, a server has a URL, and the logger has a level. -/
structure IsUsable (c : Config) : Prop where
  default_defined : ∃ s, (c.default, s) ∈ c.connections
  database_given : ∀ name s, (name, s) ∈ c.connections → s.driver = .sqlite → IsGiven s.database
  url_given : ∀ name s, (name, s) ∈ c.connections → s.driver = .postgres ∨ s.driver = .mysql →
    IsGiven s.url
  level_known : ∃ level, LogLevel.parse? c.logging.level = some level

theorem isBlank_eq_false_iff {setting : Option String} :
    ConnectionSettings.isBlank setting = false ↔ IsGiven setting := by
  cases setting with
  | none => simp [ConnectionSettings.isBlank, IsGiven]
  | some text => simp [ConnectionSettings.isBlank, IsGiven, isBlankText]

/-- The checks of a connection. -/
theorem settingsFault?_eq_none_iff {name : String} {s : ConnectionSettings} :
    settingsFault? name s = none ↔
      (s.driver = .sqlite → IsGiven s.database) ∧
        (s.driver = .postgres ∨ s.driver = .mysql → IsGiven s.url) := by
  rw [← isBlank_eq_false_iff, ← isBlank_eq_false_iff, settingsFault?]
  cases s.driver <;> simp

/-- A name is looked up in vain if no connection has it. -/
theorem lookup_eq_none_iff {name : String} :
    c.connections.lookup name = none ↔ ∀ s, (name, s) ∉ c.connections := by
  rw [List.lookup_eq_none_iff]
  constructor
  · intro h s hs
    exact absurd (h _ hs) (by simp)
  · rintro h ⟨other, s⟩ hs
    rw [bne_iff_ne]
    rintro rfl
    exact h s hs

/-- **The checks of all connections.** -/
theorem fault?_eq_none_iff :
    c.fault? = none ↔ (∃ s, (c.default, s) ∈ c.connections) ∧
      ∀ entry ∈ c.connections, settingsFault? entry.1 entry.2 = none := by
  unfold fault?
  by_cases hempty : c.connections.isEmpty
  · rw [if_pos hempty, List.isEmpty_iff.mp hempty]
    simp
  rw [if_neg hempty]
  by_cases hdefault : ∃ s, (c.default, s) ∈ c.connections
  · have hlookup : ¬ (c.connections.lookup c.default).isNone := by
      rw [Option.isNone_iff_eq_none, lookup_eq_none_iff, not_forall_not]
      exact hdefault
    rw [if_neg hlookup, List.findSome?_eq_none_iff]
    exact (and_iff_right hdefault).symm
  · have hlookup : (c.connections.lookup c.default).isNone := by
      rw [Option.isNone_iff_eq_none, lookup_eq_none_iff, ← not_exists]
      exact hdefault
    rw [if_pos hlookup]
    exact ⟨nofun, fun h => absurd h.1 hdefault⟩

/-- **The logger** is there if the level is. -/
theorem exists_logger_iff {s : LoggingSettings} :
    (∃ logger, s.logger = .ok logger) ↔ ∃ level, LogLevel.parse? s.level = some level := by
  rw [LoggingSettings.logger]
  cases LogLevel.parse? s.level <;> simp

/-- **The checks of a configuration** leave those that can be used. -/
theorem validate_eq_ok_iff : c.validate = .ok () ↔ IsUsable c := by
  have hfields : IsUsable c ↔ c.fault? = none ∧ ∃ logger, c.logging.logger = .ok logger := by
    rw [fault?_eq_none_iff, exists_logger_iff]
    simp only [settingsFault?_eq_none_iff, Prod.forall]
    constructor
    · rintro ⟨hdefault, hdatabase, hurl, hlevel⟩
      exact ⟨⟨hdefault, fun name s h => ⟨hdatabase name s h, hurl name s h⟩⟩, hlevel⟩
    · rintro ⟨⟨hdefault, hsettings⟩, hlevel⟩
      exact ⟨hdefault, fun name s h => (hsettings name s h).1, fun name s h => (hsettings name s h).2, hlevel⟩
  rw [hfields, validate]
  cases c.fault? with
  | some fault => simp
  | none => cases c.logging.logger <;> simp [Except.map]

/-- What fails a check is a fault of the configuration. -/
theorem exists_of_validate_eq_error {error : Error} (h : c.validate = .error error) :
    ∃ fault, error = .config fault := by
  unfold validate LoggingSettings.logger at h
  cases hfault : c.fault? with
  | some fault =>
    rw [hfault] at h
    cases h
    exact ⟨fault, rfl⟩
  | none =>
    rw [hfault] at h
    cases hlevel : LogLevel.parse? c.logging.level with
    | some level =>
      rw [hlevel] at h
      cases h
    | none =>
      rw [hlevel] at h
      cases h
      exact ⟨_, rfl⟩

/-! ## Acceptance -/

/-- **What is accepted** resolves to what can be used. -/
theorem accept_eq_ok_iff : accept env written = .ok c ↔ IsResolved env written c ∧ IsUsable c := by
  rw [accept, bind_eq_ok_iff, ← expandAll_eq_ok_iff, ← validate_eq_ok_iff]
  constructor
  · rintro ⟨resolved, hresolved, h⟩
    obtain ⟨⟨⟩, hvalidate, ⟨⟩⟩ := bind_eq_ok_iff.mp h
    refine ⟨?_, hvalidate⟩
    cases hexpand : written.expandAll env with
    | error fault =>
      rw [hexpand] at hresolved
      cases hresolved
    | ok c =>
      rw [hexpand] at hresolved
      cases hresolved
      rfl
  · rintro ⟨hexpand, hvalidate⟩
    refine ⟨c, ?_, bind_eq_ok_iff.mpr ⟨(), hvalidate, rfl⟩⟩
    rw [hexpand]
    rfl

/-- **What is rejected** has a reference that does not resolve, or resolves to what cannot be used; it is a
    fault of the configuration. -/
theorem exists_accept_eq_error_iff :
    (∃ fault, accept env written = .error (.config fault)) ↔
      HasBadReference env written ∨ ∃ c, IsResolved env written c ∧ ¬ IsUsable c := by
  cases hexpand : written.expandAll env with
  | error fault =>
    have hbad : HasBadReference env written := by
      by_contra hgood
      obtain ⟨c, hc⟩ := exists_isResolved_iff.mpr hgood
      rw [expandAll_eq_ok_iff.mpr hc] at hexpand
      cases hexpand
    refine iff_of_true ⟨fault, ?_⟩ (.inl hbad)
    rw [accept, hexpand]
    rfl
  | ok c =>
    have hresolved := expandAll_eq_ok_iff.mp hexpand
    have hgood : ¬ HasBadReference env written := exists_isResolved_iff.mp ⟨c, hresolved⟩
    have haccept : accept env written = c.validate.map fun _ => c := by
      rw [accept, hexpand]
      show (c.validate >>= fun _ => .ok c) = _
      cases c.validate <;> rfl
    rw [or_iff_right hgood, haccept]
    constructor
    · rintro ⟨fault, h⟩
      refine ⟨c, hresolved, fun husable => ?_⟩
      rw [validate_eq_ok_iff.mpr husable] at h
      cases h
    · rintro ⟨c', hresolved', hunusable⟩
      rw [← expandAll_eq_ok_iff, hexpand] at hresolved'
      cases hresolved'
      rw [← validate_eq_ok_iff] at hunusable
      cases hvalidate : c.validate with
      | ok => exact absurd hvalidate hunusable
      | error error =>
        obtain ⟨fault, rfl⟩ := exists_of_validate_eq_error hvalidate
        exact ⟨fault, rfl⟩

end FluentSql.Config
