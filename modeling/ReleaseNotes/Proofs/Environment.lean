import Mathlib.Data.List.DropRight
import ReleaseNotes.Proofs.Run
import ReleaseNotes.Proofs.Tables
import ReleaseNotes.Settings.Read

/-!
# What the environment supplies

The environment may hold the address of the tracker from which the others derive. A table of settings that gives this
address (`Table.GivesBaseUrl`) means the same whatever the environment holds. In a table that leaves it out, or has
something empty in its place, the address of the environment stands in for it, and nothing else changes: two
environments make tables that say the same of everything else (`Table.SameButBaseUrl`), so that the settings in them
differ in the address alone, and so do the complaints about them (`Supplied`, `supplied_ofTable`). An address of the
pages or attachments that the table sets stays as it is, and one that it does not set derives from the address of the
environment without the slashes at its end (`environment_supplies_baseUrl`).
-/

namespace ReleaseNotes

open Data Data.Table

variable {t t' t'' tracker tracker' : Table} {environment? other? : Option String} {s s' : Settings}
variable {language : Template.Language}
  {a a' : TrackerSettings} {name url : String} {v : Value}

/-! ### Stems -/

/-- A text consists of a stem, which does not end in a slash, and of slashes after it. -/
def Text.HasStem (s stem : String) : Prop :=
  ∃ n, s.toList = stem.toList ++ List.replicate n '/' ∧ stem.toList.getLast? ≠ some '/'

theorem Text.toList_dropSlashes (s : String) : (dropSlashes s).toList = s.toList.rdropWhile (· == '/') :=
  String.toList_ofList

theorem Text.hasStem_dropSlashes (s : String) : HasStem s (dropSlashes s) := by
  refine ⟨(s.toList.rtakeWhile (· == '/')).length, ?_, fun hl => ?_⟩
  · have hr : s.toList.rtakeWhile (· == '/') = List.replicate (s.toList.rtakeWhile (· == '/')).length '/' :=
      List.eq_replicate_of_mem fun c hc => by simpa using List.mem_rtakeWhile_imp hc
    rw [toList_dropSlashes, ← hr, List.rdropWhile_append_rtakeWhile]
  · rw [toList_dropSlashes] at hl
    have hne : s.toList.rdropWhile (· == '/') ≠ [] := fun h => by rw [h] at hl; cases hl
    rw [List.getLast?_eq_some_getLast hne, Option.some.injEq] at hl
    exact List.rdropWhile_last_not _ _ hne (beq_iff_eq.mpr hl)

/-- A text has one stem, which is what is left of it without the slashes at its end. -/
theorem Text.hasStem_iff {s stem : String} : HasStem s stem ↔ dropSlashes s = stem := by
  refine ⟨?_, fun h => h ▸ hasStem_dropSlashes s⟩
  rintro ⟨n, hs, hl⟩
  have hstem : stem.toList.rdropWhile (· == '/') = stem.toList :=
    List.rdropWhile_eq_self_iff.mpr fun hne he =>
      hl (by rw [List.getLast?_eq_some_getLast hne, beq_iff_eq.mp he])
  rw [← String.toList_inj, toList_dropSlashes, hs]
  clear hs
  induction n with
  | zero => simpa using hstem
  | succ n ih => rw [List.replicate_succ', ← List.append_assoc, List.rdropWhile_concat_pos _ _ _ (by decide), ih]

/-! ### What a table says about the tracker -/

/-- The part of a table about the tracker, empty if it is left out, unless it is no table. -/
def Data.Table.tracker? (t : Table) : Option Table :=
  match (t.get? trackerPart).getD (.table []) with
  | .table tracker => some tracker
  | _ => none

/-- In its part about the tracker, a table has a value under a name. -/
def Data.Table.SaysOfTracker (t : Table) (name : String) (v : Value) : Prop :=
  ∃ tracker, t.tracker? = some tracker ∧ tracker.get? name = some v

/-- A table gives the address from which the others derive: it has something there that is not empty. -/
def Data.Table.GivesBaseUrl (t : Table) : Prop :=
  ∃ v, t.SaysOfTracker baseUrlField v ∧ v.isSet = true

/-- A table sets an address of the tracker. -/
def Data.Table.SetsAddress (t : Table) (name url : String) : Prop :=
  t.SaysOfTracker name (.text url) ∧ url ≠ ""

theorem saysOfTracker_iff (h : t.tracker? = some tracker) : t.SaysOfTracker name v ↔ tracker.get? name = some v := by
  simp [Table.SaysOfTracker, h]

/-- A table whose part about the tracker has an address from elsewhere. -/
def Data.Table.withBaseUrl (t tracker : Table) (url : String) : Table :=
  t.put trackerPart (.table (tracker.put baseUrlField (.text url)))

theorem tracker?_withBaseUrl (t tracker : Table) (url : String) :
    (t.withBaseUrl tracker url).tracker? = some (tracker.put baseUrlField (.text url)) := by
  rw [Table.tracker?, Table.withBaseUrl, get?_put_self]
  rfl

theorem withEnvironment_of_noTracker (h : t.tracker? = none) : withEnvironment environment? t = .error .noTracker := by
  rw [Table.tracker?] at h
  rw [withEnvironment]
  generalize (t.get? trackerPart).getD (.table []) = v at h ⊢
  cases v with
  | table tracker => cases h
  | _ => rfl

theorem withEnvironment_of_tracker (h : t.tracker? = some tracker) :
    withEnvironment environment? t =
      match ((tracker.get? baseUrlField).map Value.isSet).getD false, filled? environment? with
      | false, some url => .ok (t.withBaseUrl tracker url)
      | _, _ => .ok t := by
  rw [Table.tracker?] at h
  rw [withEnvironment]
  generalize (t.get? trackerPart).getD (.table []) = v at h ⊢
  cases v with
  | table entries =>
    cases h
    rfl
  | _ => cases h

theorem givesBaseUrl_iff (h : t.tracker? = some tracker) :
    t.GivesBaseUrl ↔ ((tracker.get? baseUrlField).map Value.isSet).getD false = true := by
  simp only [Table.GivesBaseUrl, saysOfTracker_iff h]
  cases tracker.get? baseUrlField <;> simp

/-- A table stays as it is if it gives the address or the environment does not. -/
theorem withEnvironment_of_kept (h : t.tracker? = some tracker) (hk : t.GivesBaseUrl ∨ filled? environment? = none) :
    withEnvironment environment? t = .ok t := by
  rw [withEnvironment_of_tracker h]
  rw [givesBaseUrl_iff h] at hk
  split
  · next hg he =>
    rw [hg, he] at hk
    simp at hk
  · rfl

/-- The address of the environment stands in for one that a table does not give. -/
theorem withEnvironment_of_left_out (h : t.tracker? = some tracker) (hg : ¬ t.GivesBaseUrl)
    (he : filled? environment? = some url) : withEnvironment environment? t = .ok (t.withBaseUrl tracker url) := by
  rw [givesBaseUrl_iff h, Bool.not_eq_true] at hg
  rw [withEnvironment_of_tracker h, hg, he]

/-! ### Tables that differ in the address -/

/-- Two tables say the same of everything but the address from which the others derive. -/
structure Data.Table.SameButBaseUrl (t t' : Table) : Prop where
  /-- The other parts are the same. -/
  parts : ∀ name ≠ trackerPart, t.get? name = t'.get? name
  /-- So are the other fields of the part about the tracker. -/
  fields : ∃ tracker tracker', t.tracker? = some tracker ∧ t'.tracker? = some tracker' ∧
    ∀ name ≠ baseUrlField, tracker.get? name = tracker'.get? name

namespace Data.Table

theorem SameButBaseUrl.symm (h : t.SameButBaseUrl t') : t'.SameButBaseUrl t := by
  obtain ⟨tracker, tracker', ht, ht', hf⟩ := h.fields
  exact ⟨fun name hn => (h.parts name hn).symm, tracker', tracker, ht', ht, fun name hn => (hf name hn).symm⟩

theorem SameButBaseUrl.trans (h : t.SameButBaseUrl t') (h' : t'.SameButBaseUrl t'') : t.SameButBaseUrl t'' := by
  obtain ⟨tracker, middle, ht, hm, hf⟩ := h.fields
  obtain ⟨middle', tracker', hm', ht', hf'⟩ := h'.fields
  cases hm.symm.trans hm'
  exact ⟨fun name hn => (h.parts name hn).trans (h'.parts name hn), tracker, tracker', ht, ht',
    fun name hn => (hf name hn).trans (hf' name hn)⟩

theorem sameButBaseUrl_withBaseUrl (h : t.tracker? = some tracker) (url : String) :
    t.SameButBaseUrl (t.withBaseUrl tracker url) :=
  ⟨fun _ hn => (get?_put_of_ne hn _ _).symm, tracker, _, h, tracker?_withBaseUrl t tracker url,
    fun _ hn => (get?_put_of_ne hn _ _).symm⟩

/-- What the environment does to a table is about the address alone. -/
theorem sameButBaseUrl_of_withEnvironment (h : withEnvironment environment? t = .ok t') : t.SameButBaseUrl t' := by
  cases ht : t.tracker? with
  | none =>
    rw [withEnvironment_of_noTracker ht] at h
    cases h
  | some tracker =>
    by_cases hk : t.GivesBaseUrl ∨ filled? environment? = none
    · rw [withEnvironment_of_kept ht hk] at h
      cases h
      exact ⟨fun _ _ => rfl, tracker, tracker, ht, ht, fun _ _ => rfl⟩
    · obtain ⟨hg, he⟩ := not_or.mp hk
      obtain ⟨url, he⟩ := Option.ne_none_iff_exists'.mp he
      rw [withEnvironment_of_left_out ht hg he] at h
      cases h
      exact sameButBaseUrl_withBaseUrl ht url

theorem part_tracker {α : Type} {read : Table → Checked α} (h : t.tracker? = some tracker) :
    t.part trackerPart read = .inside trackerPart (read tracker) := by
  unfold tracker? at h
  unfold part
  cases hg : t.get? trackerPart with
  | none =>
    rw [hg] at h
    cases h
    rfl
  | some v =>
    rw [hg] at h
    cases v <;> cases h
    rfl

end Data.Table

/-! ### Settings -/

/-- The address from which the others derive, in the part of a table about the tracker. -/
def TrackerSettings.readBaseUrl (tracker : Table) : Checked String :=
  tracker.defaulted baseUrlField ({} : TrackerSettings).baseUrl Value.asText

theorem TrackerSettings.readBaseUrl_of_text (h : tracker.get? baseUrlField = some (.text url)) :
    readBaseUrl tracker = .ok url := by
  rw [readBaseUrl, Table.defaulted, h]
  rfl

/-- An address that may be left out. -/
def TrackerSettings.readAddress (tracker : Table) (name : String) : Checked (Option String) :=
  tracker.defaulted name none (Value.asOptional Value.asText)

theorem TrackerSettings.read_eq_ok_iff : TrackerSettings.read tracker = .ok a ↔
    readBaseUrl tracker = .ok a.baseUrl ∧ readAddress tracker "browse_url" = .ok a.browseUrl? ∧
      readAddress tracker "attachment_url" = .ok a.attachmentUrl? ∧
      tracker.defaulted "note_filename" ({} : TrackerSettings).noteFilename Value.asText = .ok a.noteFilename ∧
      tracker.defaulted "timeout" none (Value.asOptional Value.asFloat) = .ok a.timeout? := by
  simp only [read, Checked.both_eq_ok_iff, Checked.pure]
  constructor
  · rintro ⟨_, timeout?, ⟨_, noteFilename, ⟨_, attachmentUrl?, ⟨_, browseUrl?, ⟨_, baseUrl, ⟨⟩, hb, rfl⟩, hp, rfl⟩,
      ha, rfl⟩, hn, rfl⟩, ht, rfl⟩
    exact ⟨hb, hp, ha, hn, ht⟩
  · rintro ⟨hb, hp, ha, hn, ht⟩
    exact ⟨_, _, ⟨_, _, ⟨_, _, ⟨_, _, ⟨_, _, rfl, hb, rfl⟩, hp, rfl⟩, ha, rfl⟩, hn, rfl⟩, ht, rfl⟩

theorem Settings.check_eq_ok_iff : Settings.check language t = .ok s ↔
    t.defaulted "config_version" ({} : Settings).version Value.asText = .ok s.version ∧
      t.part trackerPart TrackerSettings.read = .ok s.tracker ∧
      t.part wordingPart (WordingSettings.readChecked language) = .ok s.wording ∧
      t.part "output" OutputSettings.read = .ok s.output ∧ t.part "paths" PathSettings.read = .ok s.paths ∧
      s.language = language := by
  simp only [check, Checked.both_eq_ok_iff, Checked.pure]
  constructor
  · rintro ⟨_, paths, ⟨_, output, ⟨_, wording, ⟨_, tracker, ⟨_, version, ⟨⟩, hv, rfl⟩, ht, rfl⟩, hw, rfl⟩, ho, rfl⟩,
      hp, rfl⟩
    exact ⟨hv, ht, hw, ho, hp, rfl⟩
  · rintro ⟨hv, ht, hw, ho, hp, rfl⟩
    exact ⟨_, _, ⟨_, _, ⟨_, _, ⟨_, _, ⟨_, _, rfl, hv, rfl⟩, ht, rfl⟩, hw, rfl⟩, ho, rfl⟩, hp, rfl⟩

theorem Settings.tracker_of_check (h : Settings.check language t = .ok s) (ht : t.tracker? = some tracker) :
    TrackerSettings.read tracker = .ok s.tracker := by
  have hp := (check_eq_ok_iff.mp h).2.1
  rwa [Table.part_tracker ht, Checked.inside_eq_ok_iff] at hp

/-- Settings with another address from which the others derive. -/
def Settings.withBaseUrl (s : Settings) (url : String) : Settings :=
  { s with tracker := { s.tracker with baseUrl := url } }

theorem TrackerSettings.eq_of_read (hf : ∀ name ≠ baseUrlField, tracker.get? name = tracker'.get? name)
    (h : TrackerSettings.read tracker = .ok a) (h' : TrackerSettings.read tracker' = .ok a') :
    a' = { a with baseUrl := a'.baseUrl } := by
  obtain ⟨-, hpages, hattachments, hnote, htime⟩ := read_eq_ok_iff.mp h
  obtain ⟨-, hpages', hattachments', hnote', htime'⟩ := read_eq_ok_iff.mp h'
  cases a
  cases a'
  obtain rfl := defaulted_unique (hf _ (by decide)) hpages hpages'
  obtain rfl := defaulted_unique (hf _ (by decide)) hattachments hattachments'
  obtain rfl := defaulted_unique (hf _ (by decide)) hnote hnote'
  obtain rfl := defaulted_unique (hf _ (by decide)) htime htime'
  rfl

/-- Settings that are read from tables that differ in the address alone differ in the address alone. -/
theorem Data.Table.SameButBaseUrl.settings_eq (h : t.SameButBaseUrl t') (hs : Settings.check language t = .ok s)
    (hs' : Settings.check language t' = .ok s') : s' = s.withBaseUrl s'.tracker.baseUrl := by
  obtain ⟨tracker, tracker', ht, ht', hf⟩ := h.fields
  have htracker := TrackerSettings.eq_of_read hf (Settings.tracker_of_check hs ht) (Settings.tracker_of_check hs' ht')
  obtain ⟨hversion, -, hwording, houtput, hpaths, hlanguage⟩ := Settings.check_eq_ok_iff.mp hs
  obtain ⟨hversion', -, hwording', houtput', hpaths', hlanguage'⟩ := Settings.check_eq_ok_iff.mp hs'
  cases s
  cases s'
  obtain rfl := defaulted_unique (h.parts _ (by decide)) hversion hversion'
  obtain rfl := part_unique (h.parts _ (by decide)) hwording hwording'
  obtain rfl := part_unique (h.parts _ (by decide)) houtput houtput'
  obtain rfl := part_unique (h.parts _ (by decide)) hpaths hpaths'
  obtain rfl := hlanguage.trans hlanguage'.symm
  exact congrArg (Settings.mk _ · _ _ _ _) htracker

/-! ### Complaints -/

/-- The complaint that the address from which the others derive is no text. -/
def badBaseUrl : Complaint :=
  ⟨[trackerPart, baseUrlField], .notText⟩

/-- All that may be wrong with the address is that it is no text. -/
theorem eq_badBaseUrl {c : Complaint}
    (hc : c ∈ Checked.found (.inside trackerPart (TrackerSettings.readBaseUrl tracker))) : c = badBaseUrl := by
  rw [Checked.found_inside, TrackerSettings.readBaseUrl, Table.defaulted] at hc
  cases hv : tracker.get? baseUrlField with
  | none =>
    rw [hv] at hc
    cases hc
  | some v =>
    rw [hv] at hc
    cases v <;> simp_all [Value.asText, Checked.at, Checked.found, badBaseUrl]

theorem filter_found_readBaseUrl (tracker : Table) :
    (Checked.found (.inside trackerPart (TrackerSettings.readBaseUrl tracker))).filter (· ≠ badBaseUrl) = [] := by
  rw [List.filter_eq_nil_iff]
  intro c hc
  simpa using eq_badBaseUrl hc

theorem filter_found_tracker (hf : ∀ name ≠ baseUrlField, tracker.get? name = tracker'.get? name) :
    (Checked.found (.inside trackerPart (TrackerSettings.read tracker))).filter (· ≠ badBaseUrl) =
      (Checked.found (.inside trackerPart (TrackerSettings.read tracker'))).filter (· ≠ badBaseUrl) := by
  have hb := filter_found_readBaseUrl tracker
  have hb' := filter_found_readBaseUrl tracker'
  simp only [TrackerSettings.read, TrackerSettings.readBaseUrl, baseUrlField, Checked.found_inside,
    Checked.found_both, Checked.found_pure, List.nil_append, List.map_append, List.filter_append] at hb hb' ⊢
  rw [hb, hb', defaulted_congr (hf "browse_url" (by decide)), defaulted_congr (hf "attachment_url" (by decide)),
    defaulted_congr (hf "note_filename" (by decide)), defaulted_congr (hf "timeout" (by decide))]

/-- Apart from the address, the same is complained about in tables that differ in the address alone. -/
theorem filter_found_check (h : t.SameButBaseUrl t') :
    (Checked.found (Settings.check language t)).filter (· ≠ badBaseUrl) =
      (Checked.found (Settings.check language t')).filter (· ≠ badBaseUrl) := by
  obtain ⟨tracker, tracker', ht, ht', hf⟩ := h.fields
  simp only [Settings.check, Checked.found_both, Checked.found_pure, List.nil_append, List.filter_append]
  rw [part_tracker ht, part_tracker ht', filter_found_tracker hf,
    defaulted_congr (h.parts "config_version" (by decide)), part_congr (h.parts wordingPart (by decide)),
    part_congr (h.parts "output" (by decide)), part_congr (h.parts "paths" (by decide))]

theorem strayFault?_congr (h : t.SameButBaseUrl t') : strayFault? language t = strayFault? language t' := by
  rw [strayFault?, strayFault?, part_congr (h.parts _ (by decide))]

/-- Nothing is wrong with an address that is a text. -/
theorem about_tracker (hb : tracker.get? baseUrlField = some (.text url)) :
    Checked.About (· ≠ [baseUrlField]) (TrackerSettings.read tracker) := by
  have hfirst : Checked.About (· ≠ [baseUrlField])
      ((Checked.pure TrackerSettings.mk).both (TrackerSettings.readBaseUrl tracker)) := by
    rw [TrackerSettings.readBaseUrl_of_text hb]
    exact (Checked.about_pure _).both (Checked.about_ok _)
  exact (((hfirst.field (by decide)).field (by decide)).field (by decide)).field (by decide)

theorem about_wording (entries : Table) :
    Checked.About (fun _ => True) (WordingSettings.readChecked language entries) := by
  have hread : Checked.About (fun _ => True) (WordingSettings.read entries) := by
    refine .field (.field (.field (.field (.field (.field (.field (.field (.field (Checked.about_pure _) ?_) ?_) ?_)
      ?_) ?_) ?_) ?_) ?_) ?_ <;> trivial
  unfold WordingSettings.readChecked
  split
  · next found hf => exact hf ▸ hread
  -- A template that cannot be used is one complaint, about the wording as a whole.
  · split
    · exact Checked.about_ok _
    · rintro _ ⟨⟩
      simp

theorem about_output (entries : Table) : Checked.About (fun _ => True) (OutputSettings.read entries) :=
  ((Checked.about_pure _).field trivial).field trivial

theorem about_paths (entries : Table) : Checked.About (fun _ => True) (PathSettings.read entries) :=
  ((((Checked.about_pure _).field trivial).field trivial).field trivial).field trivial

/-- If the address in a table is a text, all that is complained about is something else. -/
theorem about_check (language : Template.Language) (ht : t.tracker? = some tracker)
    (hb : tracker.get? baseUrlField = some (.text url)) :
    Checked.About (· ≠ badBaseUrl.path) (Settings.check language t) := by
  have htracker : Checked.About (· ≠ badBaseUrl.path) (t.part trackerPart TrackerSettings.read) := by
    rw [part_tracker ht]
    exact .inside ((about_tracker hb).mono fun path hp => by simpa [badBaseUrl] using hp)
  have hother {α : Type} {read : Table → Checked α} (name : String) (hn : name ≠ trackerPart)
      (h : ∀ entries, Checked.About (fun _ => True) (read entries)) :
      Checked.About (· ≠ badBaseUrl.path) (t.part name read) :=
    about_part (by simp [badBaseUrl]) fun entries => (h entries).mono fun _ _ => by simp [badBaseUrl, hn]
  exact (((((Checked.about_pure _).field (by decide)).both htracker).both
    (hother _ (by decide) about_wording)).both (hother _ (by decide) about_output)).both
    (hother _ (by decide) about_paths)

/-! ### Outcomes -/

/-- What comes of a table without an address from the environment, and what comes of it when one stands in for the
address that the table does not give. -/
inductive Supplied (url : String) : Except SettingsFault Settings → Except SettingsFault Settings → Prop where
  /-- The settings differ in the address alone. -/
  | settings (s : Settings) : Supplied url (.ok s) (.ok (s.withBaseUrl url))
  /-- Only the address is wrong, so that there are settings with another one. -/
  | repaired {found : List Complaint} {s : Settings} : (∀ c ∈ found, c = badBaseUrl) → s.tracker.baseUrl = url →
      Supplied url (.error (.complaints found)) (.ok s)
  /-- Something else is wrong: the same is complained about, except for the address. -/
  | complaints {found : List Complaint} : found.filter (· ≠ badBaseUrl) ≠ [] →
      Supplied url (.error (.complaints found)) (.error (.complaints (found.filter (· ≠ badBaseUrl))))
  /-- The reading breaks off for another reason. -/
  | broken {fault : SettingsFault} : (∀ found, fault ≠ .complaints found) → Supplied url (.error fault) (.error fault)

theorem baseUrl_of_check (ht : t.tracker? = some tracker) (hb : tracker.get? baseUrlField = some (.text url))
    (h : Settings.check language t = .ok s) : s.tracker.baseUrl = url := by
  have hr := (TrackerSettings.read_eq_ok_iff.mp (Settings.tracker_of_check h ht)).1
  rw [TrackerSettings.readBaseUrl_of_text hb] at hr
  exact (Except.ok.inj hr).symm

theorem supplied_check (ht : t.tracker? = some tracker) (url : String) :
    Supplied url ((Settings.check language t).mapError .complaints)
      ((Settings.check language (t.withBaseUrl tracker url)).mapError .complaints) := by
  have ht' := tracker?_withBaseUrl t tracker url
  have hb' := get?_put_self baseUrlField (.text url) tracker
  have hsame := sameButBaseUrl_withBaseUrl ht url
  have habout := about_check language ht' hb'
  -- Only the address may be complained about in one of the tables and not in the other, and it is right in the second.
  have hfound : Checked.found (Settings.check language (t.withBaseUrl tracker url)) =
      (Checked.found (Settings.check language t)).filter (· ≠ badBaseUrl) := by
    rw [filter_found_check hsame]
    refine (List.filter_eq_self.mpr fun c hc => ?_).symm
    exact decide_eq_true fun he => habout.of_mem_found hc (congrArg Complaint.path he)
  cases hs : Settings.check language t with
  | ok s =>
    rw [hs] at hfound
    obtain ⟨s', hs'⟩ := habout.exists_eq_ok hfound
    have he := hsame.settings_eq hs hs'
    rw [baseUrl_of_check ht' hb' hs'] at he
    rw [hs', he]
    exact .settings s
  | error found =>
    rw [hs] at hfound
    cases hs' : Settings.check language (t.withBaseUrl tracker url) with
    | ok s' =>
      rw [hs'] at hfound
      refine .repaired (fun c hc => ?_) (baseUrl_of_check ht' hb' hs')
      simpa using List.filter_eq_nil_iff.mp hfound.symm c hc
    | error rest =>
      rw [hs'] at hfound
      have hrest : rest = found.filter (· ≠ badBaseUrl) := hfound
      subst hrest
      exact .complaints (habout _ hs').1

theorem ofTable_of_withEnvironment (h : withEnvironment environment? t = .ok t') :
    Settings.ofTable environment? t language =
      match strayFault? language t' with
      | some fault => .error (.stray fault)
      | none => (Settings.check language t').mapError .complaints := by
  rw [Settings.ofTable, h, ok_bind]
  cases strayFault? language t' with
  | some fault => rfl
  | none => cases Settings.check language t' <;> rfl

theorem check_of_ofTable (h : Settings.ofTable environment? t language = .ok s) :
    ∃ t', withEnvironment environment? t = .ok t' ∧ Settings.check language t' = .ok s := by
  cases hw : withEnvironment environment? t with
  | error fault =>
    rw [Settings.ofTable, hw] at h
    cases h
  | ok t' =>
    rw [ofTable_of_withEnvironment hw] at h
    refine ⟨t', rfl, ?_⟩
    cases hf : strayFault? language t' with
    | some fault =>
      rw [hf] at h
      cases h
    | none =>
      rw [hf] at h
      cases hc : Settings.check language t' <;> rw [hc] at h <;> cases h
      rfl

/-- The addresses of the tracker are read from a table that differs from the given one in the address from which they
derive at most. -/
theorem read_of_ofTable (h : Settings.ofTable environment? t language = .ok s) :
    ∃ t' tracker', t.SameButBaseUrl t' ∧ t'.tracker? = some tracker' ∧
      TrackerSettings.read tracker' = .ok s.tracker := by
  obtain ⟨t', hw, hc⟩ := check_of_ofTable h
  have hsame := sameButBaseUrl_of_withEnvironment hw
  obtain ⟨-, tracker', -, ht', -⟩ := hsame.fields
  exact ⟨t', tracker', hsame, ht', Settings.tracker_of_check hc ht'⟩

/-- An address that stands in for one that a table does not give repairs that address and nothing else. -/
theorem supplied_ofTable (hg : ¬ t.GivesBaseUrl) (he : filled? environment? = some url) (hn : filled? other? = none) :
    Supplied url (Settings.ofTable other? t language) (Settings.ofTable environment? t language) := by
  cases ht : t.tracker? with
  | none =>
    rw [Settings.ofTable, Settings.ofTable, withEnvironment_of_noTracker ht, withEnvironment_of_noTracker ht]
    exact .broken nofun
  | some tracker =>
    rw [ofTable_of_withEnvironment (withEnvironment_of_kept ht (.inr hn)),
      ofTable_of_withEnvironment (withEnvironment_of_left_out ht hg he),
      ← strayFault?_congr (sameButBaseUrl_withBaseUrl ht url)]
    cases strayFault? language t with
    | some fault => exact .broken nofun
    | none => exact supplied_check ht url

/-! ### Addresses -/

theorem setsAddress_iff (h : t.tracker? = some tracker) :
    t.SetsAddress name url ↔ tracker.get? name = some (.text url) ∧ url ≠ "" := by
  rw [Table.SetsAddress, saysOfTracker_iff h]

theorem Data.Table.SameButBaseUrl.setsAddress_iff (h : t.SameButBaseUrl t') (hn : name ≠ baseUrlField) :
    t.SetsAddress name url ↔ t'.SetsAddress name url := by
  obtain ⟨tracker, tracker', ht, ht', hf⟩ := h.fields
  rw [ReleaseNotes.setsAddress_iff ht, ReleaseNotes.setsAddress_iff ht', hf name hn]

theorem filled?_of_readAddress {url? : Option String} (h : TrackerSettings.readAddress tracker name = .ok url?) :
    filled? url? = some url ↔ tracker.get? name = some (.text url) ∧ url ≠ "" := by
  rw [filled?_eq_some_iff]
  refine and_congr_left fun _ => ?_
  rw [TrackerSettings.readAddress, Table.defaulted] at h
  cases hv : tracker.get? name with
  | none =>
    rw [hv] at h
    cases h
    simp
  | some v =>
    rw [hv] at h
    cases v <;> cases h <;> simp

/-- The address of the pages in the settings is that which the table sets. -/
theorem filled?_browseUrl (h : Settings.ofTable environment? t language = .ok s) (url : String) :
    filled? s.tracker.browseUrl? = some url ↔ t.SetsAddress "browse_url" url := by
  obtain ⟨t', tracker', hsame, ht', hr⟩ := read_of_ofTable h
  rw [hsame.setsAddress_iff (by decide), setsAddress_iff ht']
  exact filled?_of_readAddress (TrackerSettings.read_eq_ok_iff.mp hr).2.1

/-- The address of the attachments in the settings is that which the table sets. -/
theorem filled?_attachmentUrl (h : Settings.ofTable environment? t language = .ok s) (url : String) :
    filled? s.tracker.attachmentUrl? = some url ↔ t.SetsAddress "attachment_url" url := by
  obtain ⟨t', tracker', hsame, ht', hr⟩ := read_of_ofTable h
  rw [hsame.setsAddress_iff (by decide), setsAddress_iff ht']
  exact filled?_of_readAddress (TrackerSettings.read_eq_ok_iff.mp hr).2.2.1

/-- An address that is set counts. -/
theorem getD_filled?_of_set {url? : Option String} (h : ∀ url, filled? url? = some url ↔ t.SetsAddress name url)
    (hs : t.SetsAddress name url) (derived : String) : (filled? url?).getD derived = url := by
  rw [(h url).mpr hs]
  rfl

/-- If no address is set, the one that is derived counts. -/
theorem getD_filled?_of_not_set {url? : Option String} (h : ∀ url, filled? url? = some url ↔ t.SetsAddress name url)
    (hs : ∀ url, ¬ t.SetsAddress name url) (derived : String) : (filled? url?).getD derived = derived := by
  rw [Option.eq_none_iff_forall_ne_some.mpr fun url hu => hs url ((h url).mp hu)]
  rfl

/-- What a table means in two environments. -/
structure SuppliesBaseUrl (language : Template.Language) (t : Table) (environment? other? : Option String) : Prop where
  /-- If the table gives the address, the same comes of it, be it settings or complaints. -/
  given : t.GivesBaseUrl → Settings.ofTable environment? t language = Settings.ofTable other? t language
  /-- Settings differ in the address alone. -/
  agree : ∀ s s', Settings.ofTable environment? t language = .ok s → Settings.ofTable other? t language = .ok s' →
    s' = s.withBaseUrl s'.tracker.baseUrl
  /-- The address of the pages that the table sets is the same. -/
  pages : ∀ s s' url, Settings.ofTable environment? t language = .ok s → Settings.ofTable other? t language = .ok s' →
    t.SetsAddress "browse_url" url → s.tracker.pages = url ∧ s'.tracker.pages = url
  /-- The address of the attachments that the table sets is the same. -/
  attachments : ∀ s s' url, Settings.ofTable environment? t language = .ok s →
    Settings.ofTable other? t language = .ok s' → t.SetsAddress "attachment_url" url →
      s.tracker.attachments = url ∧ s'.tracker.attachments = url
  /-- If the table does not give the address, that of the environment is taken as it is, and the addresses that the
  table does not set derive from it without the slashes at its end. -/
  derived : ∀ s url, ¬ t.GivesBaseUrl → environment? = some url → url ≠ "" →
    Settings.ofTable environment? t language = .ok s → s.tracker.baseUrl = url ∧ ∃ stem, Text.HasStem url stem ∧
      ((∀ set, ¬ t.SetsAddress "browse_url" set) → s.tracker.pages = stem ++ "/browse") ∧
      ((∀ set, ¬ t.SetsAddress "attachment_url" set) → s.tracker.attachments = stem ++ "/secure/attachment")
  /-- Against an environment that is not set, or empty, nothing but the address is another, and nothing but the
  address is repaired. -/
  supplied : ∀ url, ¬ t.GivesBaseUrl → environment? = some url → url ≠ "" → other? = none ∨ other? = some "" →
    Supplied url (Settings.ofTable other? t language) (Settings.ofTable environment? t language)

theorem ofTable_of_given (h : t.GivesBaseUrl) :
    Settings.ofTable environment? t language = Settings.ofTable other? t language := by
  obtain ⟨_, ⟨tracker, ht, -⟩, -⟩ := id h
  rw [ofTable_of_withEnvironment (withEnvironment_of_kept ht (.inl h)),
    ofTable_of_withEnvironment (withEnvironment_of_kept ht (.inl h))]

/-- Two environments differ for the settings in a table in one address. -/
theorem settings_eq_of_ofTable (h : Settings.ofTable environment? t language = .ok s)
    (h' : Settings.ofTable other? t language = .ok s') : s' = s.withBaseUrl s'.tracker.baseUrl := by
  obtain ⟨made, hw, hc⟩ := check_of_ofTable h
  obtain ⟨made', hw', hc'⟩ := check_of_ofTable h'
  have hsame := (sameButBaseUrl_of_withEnvironment hw).symm.trans (sameButBaseUrl_of_withEnvironment hw')
  exact hsame.settings_eq hc hc'

theorem baseUrl_of_left_out (hg : ¬ t.GivesBaseUrl) (he : filled? environment? = some url)
    (h : Settings.ofTable environment? t language = .ok s) : s.tracker.baseUrl = url := by
  obtain ⟨t', hw, hc⟩ := check_of_ofTable h
  obtain ⟨tracker, -, ht, -, -⟩ := (sameButBaseUrl_of_withEnvironment hw).fields
  rw [withEnvironment_of_left_out ht hg he] at hw
  cases hw
  exact baseUrl_of_check (tracker?_withBaseUrl t tracker url) (get?_put_self _ _ _) hc

/-- **The environment only supplies the address that a table leaves out.** Whatever the table says and whatever
the language of the templates, two environments differ for it in nothing else. -/
theorem environment_supplies_baseUrl (language : Template.Language) (t : Table) (environment? other? : Option String) :
    SuppliesBaseUrl language t environment? other? where
  given := ofTable_of_given
  agree _ _ := settings_eq_of_ofTable
  pages _ _ _ h h' hs :=
    ⟨getD_filled?_of_set (filled?_browseUrl h) hs _, getD_filled?_of_set (filled?_browseUrl h') hs _⟩
  attachments _ _ _ h h' hs :=
    ⟨getD_filled?_of_set (filled?_attachmentUrl h) hs _, getD_filled?_of_set (filled?_attachmentUrl h') hs _⟩
  derived s url hg he hu h := by
    have hb := baseUrl_of_left_out hg (filled?_eq_some_iff.mpr ⟨he, hu⟩) h
    refine ⟨hb, Text.dropSlashes url, Text.hasStem_dropSlashes url, fun hs => ?_, fun hs => ?_⟩
    · rw [TrackerSettings.pages, getD_filled?_of_not_set (filled?_browseUrl h) hs, hb]
    · rw [TrackerSettings.attachments, getD_filled?_of_not_set (filled?_attachmentUrl h) hs, hb]
  supplied url hg he hu hn := by
    refine supplied_ofTable hg (filled?_eq_some_iff.mpr ⟨he, hu⟩) ?_
    rcases hn with rfl | rfl <;> rfl

/-- A table with an address of the pages, with an empty address to derive the others from, and with no wording. -/
def pagesTable : Table :=
  [(trackerPart, .table [(baseUrlField, .text ""), ("browse_url", .text "https://pages.example.com/issue")]),
   (wordingPart, .table (({} : WordingSettings).templates.map fun e => (e.1, .text "")))]

/-- The environment supplies the empty address of the table, and the address of the attachments derives from it. -/
theorem environment_supplies_pagesTable :
    ¬ pagesTable.GivesBaseUrl ∧
      ∃ s s', Settings.ofTable (some "https://env.example.com/jira//") pagesTable = .ok s ∧
        Settings.ofTable none pagesTable = .ok s' ∧ s' = s.withBaseUrl s'.tracker.baseUrl ∧
        s.tracker.pages = "https://pages.example.com/issue" ∧ s'.tracker.pages = "https://pages.example.com/issue" ∧
        s.tracker.baseUrl = "https://env.example.com/jira//" ∧
        s.tracker.attachments = "https://env.example.com/jira/secure/attachment" := by
  have hg : ¬ pagesTable.GivesBaseUrl := by
    rw [givesBaseUrl_iff (show pagesTable.tracker? = some _ from rfl)]
    decide
  have hset : pagesTable.SetsAddress "browse_url" "https://pages.example.com/issue" :=
    ⟨⟨_, rfl, rfl⟩, by decide⟩
  have hnot (set : String) : ¬ pagesTable.SetsAddress "attachment_url" set := by
    rintro ⟨⟨_, ⟨⟩, ⟨⟩⟩, -⟩
  have hok (environment? : Option String) (h : (Settings.ofTable environment? pagesTable).isOk = true) :
      ∃ s, Settings.ofTable environment? pagesTable = .ok s := by
    cases hs : Settings.ofTable environment? pagesTable with
    | ok s => exact ⟨s, rfl⟩
    | error fault =>
      rw [hs] at h
      cases h
  obtain ⟨s, hs⟩ := hok (some "https://env.example.com/jira//") (by decide +kernel)
  obtain ⟨s', hs'⟩ := hok none (by decide +kernel)
  have hc := environment_supplies_baseUrl Template.core pagesTable (some "https://env.example.com/jira//") none
  obtain ⟨hpages, hpages'⟩ := hc.pages s s' _ hs hs' hset
  obtain ⟨hb, stem, hstem, -, hattachments⟩ := hc.derived s _ hg rfl (by decide) hs
  refine ⟨hg, s, s', hs, hs', hc.agree s s' hs hs', hpages, hpages', hb, ?_⟩
  rw [hattachments hnot, ← Text.hasStem_iff.mp hstem]
  decide

end ReleaseNotes
