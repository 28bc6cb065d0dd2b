import ReleaseNotes.Command.Run
import ReleaseNotes.Proofs.Escape
import ReleaseNotes.Proofs.Language
import ReleaseNotes.Proofs.Tables

/-!
# Settings that cannot be loaded

A run that loads its settings has them, or says what is wrong with them and ends with status 1
(`IsReported`), unless loading them breaks off (`Files.BreaksLoading`): their path names a directory, the
document at it is nested too deeply to be read, or the table in it breaks the reading off. A table does so just
if its part about the tracker is no table, or if it has a template at which the language of the templates
breaks off, and the templates before it can be used (`Table.BreaksOff`). What the environment holds makes no
difference (`settings_are_reported_iff`).

All this holds whatever the language of the templates is. At which templates its core breaks off is said by
`Template.core_breaksOff_iff`.
-/

namespace ReleaseNotes

open Data

variable {language : Template.Language} {reader : SettingsReader} {t : Table}
  {environment? path? : Option String} {files : Files}

/-! ### Tables -/

/-- The wording has a template at which the language breaks off, and the templates before that one can be
used. -/
def WordingSettings.HasStray (w : WordingSettings) (language : Template.Language) : Prop :=
  ∃ before entry after, w.templates = before ++ entry :: after ∧
    (∀ e ∈ before, language.validate e.2.1 e.2.2 = .ok ()) ∧ language.BreaksOff entry.2.2

theorem WordingSettings.hasStray_iff (w : WordingSettings) (language : Template.Language) :
    w.HasStray language ↔ ∃ name fault, w.firstFault? language = some (name, fault) ∧ fault.isComplaint = false := by
  simp only [firstFault?, List.findSome?_eq_some_iff]
  constructor
  · rintro ⟨before, entry, after, ht, hb, hs⟩
    obtain ⟨fault, hv, hc⟩ := (Template.Language.breaksOff_iff entry.2.1).mp hs
    exact ⟨entry.1, fault, ⟨before, entry, after, ht, by rw [hv], fun e he => by rw [hb e he]⟩, hc⟩
  · rintro ⟨name, fault, ⟨before, entry, after, ht, hf, hb⟩, hc⟩
    refine ⟨before, entry, after, ht, fun e he => ?_, (Template.Language.breaksOff_iff entry.2.1).mpr ⟨fault, ?_, hc⟩⟩
    · have he := hb e he
      cases hv : language.validate e.2.1 e.2.2 with
      | ok u => rfl
      | error fault =>
        rw [hv] at he
        cases he
    · split at hf <;> simp_all

/-- A table that breaks the reading off: its part about the tracker is no table, or its wording can be read
and has a template at which the language breaks off. -/
def Data.Table.BreaksOff (t : Table) (language : Template.Language) : Prop :=
  (∃ v, t.get? trackerPart = some v ∧ ∀ entries, v ≠ .table entries) ∨
    ∃ w, t.part wordingPart WordingSettings.read = .ok w ∧ w.HasStray language

theorem strayFault?_eq_none_iff (language : Template.Language) (t : Table) :
    strayFault? language t = none ↔
      ¬ ∃ w, t.part wordingPart WordingSettings.read = .ok w ∧ w.HasStray language := by
  rw [strayFault?]
  cases t.part wordingPart WordingSettings.read with
  | error found => simp
  | ok w =>
    have h := w.hasStray_iff language
    dsimp only
    cases hf : w.firstFault? language with
    | none => simp_all
    | some found =>
      obtain ⟨name, fault⟩ := found
      cases hc : fault.isComplaint <;> simp_all

/-- What the environment adds to a table is about the tracker alone. -/
theorem withEnvironment_cases (language : Template.Language) (environment? : Option String) (t : Table) :
    (withEnvironment environment? t = .error .noTracker ∧
        ∃ v, t.get? trackerPart = some v ∧ ∀ entries, v ≠ .table entries) ∨
      ∃ t', withEnvironment environment? t = .ok t' ∧ strayFault? language t' = strayFault? language t ∧
        ∀ v, t.get? trackerPart = some v → ∃ entries, v = .table entries := by
  rw [withEnvironment]
  split
  · next tracker ht =>
    right
    have htable (v : Value) (hv : t.get? trackerPart = some v) : ∃ entries, v = .table entries :=
      ⟨tracker, by rw [hv] at ht; exact ht⟩
    dsimp only
    split
    · refine ⟨_, rfl, ?_, htable⟩
      simp only [strayFault?, Table.part, get?_put_of_ne (show wordingPart ≠ trackerPart by decide)]
    · exact ⟨t, rfl, rfl, htable⟩
  · next ht =>
    left
    refine ⟨rfl, ?_⟩
    cases hv : t.get? trackerPart with
    | none => exact absurd (by rw [hv]; rfl) (ht [])
    | some v => exact ⟨v, rfl, fun entries he => ht entries (by rw [hv, he]; rfl)⟩

/-- The settings in a table are not reported as bad just if the table breaks the reading off. -/
theorem Settings.ofTable_unreported_iff (environment? : Option String) (t : Table) (language : Template.Language) :
    (∃ fault, Settings.ofTable environment? t language = .error fault ∧ Command.settingsReport? fault = none) ↔
      t.BreaksOff language := by
  rw [Settings.ofTable]
  rcases withEnvironment_cases language environment? t with ⟨hw, hb⟩ | ⟨t', hw, hs, ht⟩
  · rw [hw]
    exact ⟨fun _ => .inl hb, fun _ => ⟨_, rfl, rfl⟩⟩
  · have hno : ¬ ∃ v, t.get? trackerPart = some v ∧ ∀ entries, v ≠ .table entries := by
      rintro ⟨v, hv, hn⟩
      obtain ⟨entries, he⟩ := ht v hv
      exact hn entries he
    rw [hw, ok_bind, hs, Table.BreaksOff, or_iff_right hno, ← not_iff_not, ← strayFault?_eq_none_iff]
    cases strayFault? language t with
    | some fault => simp [Command.settingsReport?]
    | none => cases Settings.check language t' <;> simp [Command.settingsReport?]

/-! ### Files -/

/-- The path of the settings: the one that is named, or else the first of those that may hold them. -/
def Files.settingsPath? (files : Files) (path? : Option String) : Option String :=
  (filled? path?).or (settingsFiles.find? files.includes)

/-- What a reader makes of the text in the file at a path. -/
def Files.HoldsDocument (files : Files) (reader : SettingsReader) (path : String)
    (made : Except Toml.Fault Table) : Prop :=
  ∃ octets cs, files.read path = .ok octets ∧ Text.ofUtf8? octets = some cs ∧ reader.document cs = made

/-- A path names a directory. -/
def Files.NamesDirectory (files : Files) (path : String) : Prop :=
  ∃ parts, files.place path = .ok parts ∧ files.isDirectory parts = true

/-- Reading the settings at a path breaks off: the path names a directory, or a file with a document that is nested
too deeply, or one with a table that breaks the reading off. -/
def Files.BreaksReading (files : Files) (reader : SettingsReader) (path : String) : Prop :=
  files.NamesDirectory path ∨ files.HoldsDocument reader path (.error .tooDeep) ∨
    ∃ t, files.HoldsDocument reader path (.ok t) ∧ t.BreaksOff reader.language

/-- Loading the settings breaks off: where they are read, or, if they are in no file, at the table that says
nothing. -/
def Files.BreaksLoading (files : Files) (reader : SettingsReader) (path? : Option String) : Prop :=
  match files.settingsPath? path? with
  | some path => files.BreaksReading reader (tidyPath path)
  | none => Table.BreaksOff [] reader.language

theorem Files.NamesDirectory.read {path : String} (h : files.NamesDirectory path) :
    files.read path = .error .directory := by
  obtain ⟨parts, hp, hd⟩ := h
  rw [Files.read, hp]
  simp [hd]

/-- What is there is a directory or can be read. -/
theorem Files.includes_iff (files : Files) (path : String) :
    files.includes path = true ↔ files.NamesDirectory path ∨ ∃ octets, files.read path = .ok octets := by
  rw [includes, read, NamesDirectory]
  cases files.place path with
  | error fault => simp
  | ok parts =>
    cases hd : files.isDirectory parts with
    | true => simp [hd]
    | false => cases hf : files.find? parts <;> simp [hd, hf]

/-- The settings in a file are not reported as bad just if reading them breaks off. -/
theorem Settings.ofFile_unreported_iff (files : Files) (environment? : Option String) (path : String)
    (reader : SettingsReader) :
    (∃ fault, Settings.ofFile files environment? path reader = .error fault ∧
        Command.settingsReport? fault = none) ↔ files.BreaksReading reader (tidyPath path) := by
  rw [Settings.ofFile, Files.BreaksReading]
  cases hi : files.includes (tidyPath path) with
  | false =>
    have hn : ¬ (files.NamesDirectory (tidyPath path) ∨ ∃ octets, files.read (tidyPath path) = .ok octets) := by
      rw [← files.includes_iff, hi]
      decide
    rw [not_or] at hn
    simp only [Files.HoldsDocument, Command.settingsReport?]
    grind
  | true =>
    rcases (files.includes_iff _).mp hi with hd | ⟨octets, hr⟩
    · have hr := hd.read
      simp [hr, hd, Command.settingsReport?]
    · have hn : ¬ files.NamesDirectory (tidyPath path) := fun hd => by
        rw [hd.read] at hr
        cases hr
      rw [or_iff_right hn]
      simp only [Files.HoldsDocument, hr, Except.ok.injEq]
      cases hc : Text.ofUtf8? octets with
      | none => simp [Command.settingsReport?, hc]
      | some cs =>
        cases ht : reader.document cs with
        | error fault => cases fault <;> simp [Command.settingsReport?, hc, ht]
        | ok t => simp [hc, ht, Settings.ofTable_unreported_iff]

/-- The settings are not reported as bad just if loading them breaks off. -/
theorem Settings.load_unreported_iff (files : Files) (environment? path? : Option String) (reader : SettingsReader) :
    (∃ fault, Settings.load files environment? path? reader = .error fault ∧
        Command.settingsReport? fault = none) ↔ files.BreaksLoading reader path? := by
  rw [Settings.load, Files.BreaksLoading, Files.settingsPath?]
  cases (filled? path?).or (settingsFiles.find? files.includes) with
  | none => exact Settings.ofTable_unreported_iff environment? [] reader.language
  | some path => exact Settings.ofFile_unreported_iff files environment? path reader

/-! ### Runs -/

namespace Command

variable {α β : Type} {p : Progress}

theorem outcome_attempt (work : Assembling α) (p : Progress) :
    outcome (attempt work) p = (.ok (outcome work p).1, (outcome work p).2) := rfl

theorem outcome_onAssembly (work : Assembling α) (p : Progress) :
    outcome (onAssembly work) p = ((outcome work p).1.mapError .assembly, (outcome work p).2) := by
  rw [onAssembly, outcome_bind, outcome_attempt]
  rcases outcome work p with ⟨_ | a, p'⟩ <;> rfl

theorem outcome_tell_of_message {s line : String} (h : Terminal.message s = .ok line) (p : Progress) :
    outcome (tell s) p = (.ok (), { p with shown := p.shown ++ line }) := by
  rw [tell, outcome_onAssembly, showLine, h]
  rfl

/-- An escaped text can be shown in a colour after ordinary characters. -/
theorem exists_outcome_tellIn {colour announcement text : String} (hc : Terminal.IsLook colour.toList)
    (ha : announcement.toList.all Terminal.isOrdinary) (ht : Terminal.IsEscaped text) (p : Progress) :
    ∃ line, outcome (tellIn colour (announcement ++ text)) p =
      (.ok (), { p with shown := p.shown ++ (announcement ++ line ++ "\n") }) := by
  obtain ⟨line, hl⟩ := Terminal.exists_message_of_look hc ha ht
  exact ⟨line, outcome_tell_of_message hl p⟩

/-- A run that loads its settings has them and changes nothing, or it shows that they are bad and ends with
status 1. -/
def IsReported (reader : SettingsReader) (environment? path? : Option String) (p : Progress) : Prop :=
  (∃ settings, Settings.load p.files environment? path? reader = .ok settings ∧
      outcome (loadSettings reader environment? path?) p = (.ok settings, p)) ∨
    ∃ fault line, Settings.load p.files environment? path? reader = .error fault ∧
      outcome (loadSettings reader environment? path?) p =
        (.error (.exit 1), { p with shown := p.shown ++ ("Error: " ++ line ++ "\n") })

theorem outcome_loadSettings (reader : SettingsReader) (environment? path? : Option String) (p : Progress) :
    outcome (loadSettings reader environment? path?) p =
      match Settings.load p.files environment? path? reader with
      | .ok settings => (.ok settings, p)
      | .error fault =>
        match settingsReport? fault with
        | none => (.error (.settings fault), p)
        | some wording =>
          outcome (tellIn "red" ("Error: " ++ Terminal.escaped wording) >>= fun _ => throw (.exit 1)) p := by
  rw [loadSettings, outcome_bind, outcome_get]
  dsimp only
  cases Settings.load p.files environment? path? reader with
  | ok settings => rfl
  | error fault =>
    dsimp only
    cases settingsReport? fault <;> rfl

/-- A run that loads its settings reports bad ones, or breaks off. -/
theorem loadSettings_cases (reader : SettingsReader) (environment? path? : Option String) (p : Progress) :
    (¬ p.files.BreaksLoading reader path? ∧ IsReported reader environment? path? p) ∨
      (p.files.BreaksLoading reader path? ∧ ∃ fault, outcome (loadSettings reader environment? path?) p =
        (.error (.settings fault), p)) := by
  have hb := Settings.load_unreported_iff p.files environment? path? reader
  have ho := outcome_loadSettings reader environment? path? p
  cases hl : Settings.load p.files environment? path? reader with
  | ok settings =>
    rw [hl] at ho hb
    refine .inl ⟨fun h => ?_, .inl ⟨settings, hl, ho⟩⟩
    obtain ⟨_, ⟨⟩, _⟩ := hb.mpr h
  | error fault =>
    rw [hl] at ho hb
    dsimp only at ho
    cases hr : settingsReport? fault with
    | none =>
      rw [hr] at ho
      exact .inr ⟨hb.mp ⟨fault, rfl, hr⟩, fault, ho⟩
    | some wording =>
      obtain ⟨line, ht⟩ := exists_outcome_tellIn Terminal.isLook_red
        (show "Error: ".toList.all Terminal.isOrdinary from by decide) (Terminal.isEscaped_escaped wording) p
      rw [hr] at ho
      dsimp only at ho
      rw [outcome_bind_of_ok ht] at ho
      refine .inl ⟨fun h => ?_, .inr ⟨fault, line, hl, ho⟩⟩
      obtain ⟨_, ⟨⟩, hn⟩ := hb.mpr h
      rw [hr] at hn
      cases hn

/-- **Bad settings are reported** by a run that loads them, whatever the environment holds and whatever the
language of the templates is, if and only if loading them does not break off. -/
theorem settings_are_reported_iff (reader : SettingsReader) (environment? path? : Option String) (p : Progress) :
    IsReported reader environment? path? p ↔ ¬ p.files.BreaksLoading reader path? := by
  rcases loadSettings_cases reader environment? path? p with ⟨hn, h⟩ | ⟨hb, fault, ho⟩
  · exact iff_of_true h hn
  · refine iff_of_false ?_ (not_not_intro hb)
    rintro (⟨settings, -, h⟩ | ⟨_, line, -, h⟩) <;> rw [ho] at h <;> cases h

/-- A file with settings that holds one line. -/
def settingsLine (line : String) : Files :=
  { entries := [(settingsFile, Text.utf8 (line ++ "\n").toList)] }

/-- A tracker that is a number, and a filter that does not exist, break the run off. -/
theorem unreported_for_number_and_filter :
    outcome (loadSettings {} none none) { files := settingsLine "tracker = 5" } =
        (.error (.settings .noTracker), { files := settingsLine "tracker = 5" }) ∧
      ∃ fault, outcome (loadSettings {} none none)
          { files := settingsLine "pamphlet.title_template = '\x7b\x7b product | nofilter \x7d\x7d'" } =
        (.error (.settings (.stray fault)),
          { files := settingsLine "pamphlet.title_template = '\x7b\x7b product | nofilter \x7d\x7d'" }) := by
  have htracker : (Settings.load (settingsLine "tracker = 5") none none matches .error .noTracker) = true := by
    decide +kernel
  have hfilter : (Settings.load (settingsLine "pamphlet.title_template = '\x7b\x7b product | nofilter \x7d\x7d'")
      none none matches .error (.stray _)) = true := by
    decide +kernel
  constructor
  · rw [outcome_loadSettings]
    split at htracker
    · next h => rw [h]; rfl
    · cases htracker
  · rw [outcome_loadSettings]
    split at hfilter
    · next fault h => exact ⟨fault, by rw [h]; rfl⟩
    · cases hfilter

end Command

end ReleaseNotes
