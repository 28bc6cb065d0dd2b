import ReleaseNotes.Proofs.Loading

/-!
# Runs that break off for want of settings

Only loading the settings breaks a run off for want of them: no other part of any command does
(`HasSettings`). So a run breaks off in that way just if its arguments name the command that generates a
pamphlet and loading the settings that they choose breaks off (`run_breaks_off_iff`). The command that makes a
file with settings never does.
-/

namespace ReleaseNotes.Command

variable {α β : Type} {p : Progress}

/-- Some work never breaks off for want of settings. -/
def HasSettings (work : Commanding α) : Prop :=
  ∀ p fault, (outcome work p).1 ≠ .error (.settings fault)

namespace HasSettings

variable {work : Commanding α} {next : α → Commanding β}

theorem pure (a : α) : HasSettings (pure a) := nofun

theorem get : HasSettings get := nofun

theorem modify (f : Progress → Progress) : HasSettings (modify f) := nofun

theorem exit (status : Nat) : HasSettings (throw (.exit status) : Commanding α) := nofun

theorem bind (h : HasSettings work) (hn : ∀ a, HasSettings (next a)) : HasSettings (work >>= next) := by
  intro p fault
  have := h p fault
  rw [outcome_bind]
  revert this
  rcases outcome work p with ⟨e | a, p'⟩
  · intro h he
    cases he
    exact h rfl
  · exact fun _ => hn a p' fault

theorem attempt (work : Assembling α) : HasSettings (attempt work) := nofun

theorem onAssembly (work : Assembling α) : HasSettings (onAssembly work) := by
  intro p fault
  rw [outcome_onAssembly]
  cases (outcome work p).1 <;> exact nofun

theorem tell (s : String) : HasSettings (tell s) := onAssembly _

theorem tellIn (colour s : String) : HasSettings (tellIn colour s) := tell _

theorem tellPlainly (s : String) : HasSettings (tellPlainly s) := modify _

theorem complain (status : Nat) (complaints : List String) :
    HasSettings (complain status complaints : Commanding α) :=
  (modify _).bind fun _ => exit _

theorem refuse (t : Topic) (fault : LineFault) : HasSettings (refuse t fault : Commanding α) :=
  complain _ _

theorem forM_tell (lines : List String) : HasSettings (lines.forM Command.tell) := by
  induction lines with
  | nil => exact pure _
  | cons line lines ih => exact (tell line).bind fun _ => ih

theorem readArguments (t : Topic) (arguments : List String) : HasSettings (readArguments t arguments) := by
  rw [Command.readArguments]
  split
  · exact refuse _ _
  · split
    · exact (tellPlainly _).bind fun _ => exit _
    · exact pure _

theorem readProgram (arguments : List String) : HasSettings (readProgram arguments) := by
  refine (readArguments _ _).bind fun parsed => ?_
  split
  · refine get.bind fun p => ?_
    split
    · exact pure _
    · exact refuse _ _
  · exact pure _

theorem resolveCommand (arguments : List String) : HasSettings (resolveCommand arguments) := by
  rw [Command.resolveCommand.eq_def]
  split
  · exact refuse _ _
  · split
    · exact pure _
    · split
      · exact (readProgram _).bind fun _ => refuse _ _
      · exact refuse _ _

theorem reportFault (fault : AssemblyFault) : HasSettings (reportFault fault) := by
  rw [Command.reportFault]
  split
  · exact nofun
  · refine (tellIn _ _).bind fun _ => ?_
    split
    · exact (tellIn _ _).bind fun _ => exit _
    · exact exit _

theorem reportSuccess (path : String) : HasSettings (reportSuccess path) := by
  refine (tellIn _ _).bind fun _ => get.bind fun p => ?_
  dsimp only
  split
  · exact tellIn _ _
  · exact pure _

theorem generate (plan : Plan) (arguments : List String) : HasSettings (generate plan arguments) := by
  have hrest (paths : RunPaths) {next : Except AssemblyFault Unit → Commanding Unit}
      (hn : ∀ result, HasSettings (next result)) : HasSettings (Command.tellIn "blue"
        ("Generating release notes for " ++ Terminal.escaped paths.summary ++ "...") >>= fun _ =>
          Command.attempt (plan.generate paths) >>= next) :=
    (tellIn _ _).bind fun _ => (attempt _).bind hn
  rw [Command.generate]
  split
  · rw [showInstructions]
    split
    · exact (tell _).bind fun _ => tellPlainly _
    · exact tellPlainly _
  · rw [generateFrom]
    split
    · refine HasSettings.bind ?_ fun _ => hrest _ ?_
      · exact (tell _).bind fun _ => (tell _).bind fun _ => (tell _).bind fun _ => tell _
      rintro (fault | u)
      · exact reportFault fault
      · exact reportSuccess _
    · refine hrest _ ?_
      rintro (fault | u)
      · exact reportFault fault
      · exact reportSuccess _

theorem makeSettings (isAgreed : Bool) (input : List String) : HasSettings (makeSettings isAgreed input) := by
  have hwrite : HasSettings writeSample := by
    refine get.bind fun p => ?_
    split
    · exact nofun
    · exact nofun
  have hmay : HasSettings (mayWrite isAgreed input) := by
    refine get.bind fun p => ?_
    split
    · refine (tellIn _ _).bind fun _ => ?_
      split
      · exact pure _
      · refine (tellPlainly _).bind fun _ => ?_
        split
        · exact pure _
        · exact complain _ _
    · exact pure _
  refine hmay.bind fun may => ?_
  split
  · exact hwrite.bind fun _ => (tellIn _ _).bind fun _ => forM_tell _
  · exact pure _

theorem runMakeSettings (s : Surroundings) (program : Parsed) (arguments : List String) :
    HasSettings (runMakeSettings s program arguments) := by
  refine (readArguments _ _).bind fun parsed => ?_
  dsimp only
  split
  · exact (refuse _ _).bind fun _ => makeSettings _ _
  · exact makeSettings _ _

end HasSettings

/-- Reading the arguments changes nothing unless the run ends there. -/
theorem eq_of_readArguments {topic : Topic} {arguments : List String} {parsed : Parsed} {p p' : Progress}
    (h : outcome (readArguments topic arguments) p = (.ok parsed, p')) : p' = p := by
  rw [readArguments] at h
  split at h
  · cases h
  · split at h
    · cases h
    · cases h
      rfl

theorem eq_of_readProgram {arguments : List String} {parsed : Parsed} {p p' : Progress}
    (h : outcome (readProgram arguments) p = (.ok parsed, p')) : p' = p := by
  obtain ⟨parsed', t, ha, hr⟩ := outcome_bind_eq_ok.mp h
  rw [eq_of_readArguments ha] at hr
  split at hr
  · rw [outcome_bind, outcome_get] at hr
    dsimp only at hr
    split at hr <;> cases hr
    rfl
  · cases hr
    rfl

theorem topic?_eq_some_iff {name : String} {topic : Topic} :
    topic? name = some topic ↔
      (topic = .generate ∧ name = generateName) ∨ (topic = .makeSettings ∧ name = makeSettingsName) := by
  have hne : makeSettingsName ≠ generateName := by decide
  rw [topic?]
  by_cases hg : name = generateName
  · subst hg
    rw [if_pos (beq_self_eq_true _)]
    constructor
    · rintro ⟨⟩
      exact .inl ⟨rfl, rfl⟩
    · rintro (⟨rfl, -⟩ | ⟨-, h⟩)
      · rfl
      · exact absurd h.symm hne
  · by_cases hm : name = makeSettingsName
    · subst hm
      rw [if_neg (by simpa using hg), if_pos (beq_self_eq_true _)]
      constructor
      · rintro ⟨⟩
        exact .inr ⟨rfl, rfl⟩
      · rintro (⟨-, h⟩ | ⟨rfl, -⟩)
        · exact absurd h hg
        · rfl
    · rw [if_neg (by simpa using hg), if_neg (by simpa using hm)]
      refine iff_of_false nofun ?_
      rintro (⟨-, h⟩ | ⟨-, h⟩)
      · exact hg h
      · exact hm h

/-- A command is found just if the first argument is its name. -/
theorem outcome_resolveCommand_eq_ok {arguments rest : List String} {topic : Topic} {p p' : Progress} :
    outcome (resolveCommand arguments) p = (.ok (topic, rest), p') ↔
      p' = p ∧ ∃ name, arguments = name :: rest ∧ topic? name = some topic := by
  rw [resolveCommand.eq_def]
  cases arguments with
  | nil =>
    constructor
    · rintro ⟨⟩
    · rintro ⟨-, name, ⟨⟩, -⟩
  | cons name others =>
    dsimp only
    cases ht : topic? name with
    | some topic' =>
      simp
      grind
    | none =>
      refine iff_of_false ?_ ?_
      · dsimp only
        split
        · intro h
          obtain ⟨_, _, -, hr⟩ := outcome_bind_eq_ok.mp h
          cases hr
        · rintro ⟨⟩
      · rintro ⟨-, name', ⟨⟩, hn⟩
        rw [ht] at hn
        cases hn

/-- A run comes to the settings: its arguments can be read, and the first that is no option names the command
that generates a pamphlet. -/
def Surroundings.ComesToSettings (s : Surroundings) (files : Files) (parsed : Parsed) : Prop :=
  outcome (readProgram s.arguments) { files := files } = (.ok parsed, { files := files }) ∧
    ∃ rest, parsed.others = generateName :: rest

theorem fst_run_eq_settings_iff (s : Surroundings) (files : Files) (fault : SettingsFault) :
    (run s files).1 = .settings fault ↔
      (outcome (program s) { files := files }).1 = .error (.settings fault) := by
  show (match outcome (program s) { files := files } with
    | (.ok _, p) => (Ending.exit 0, p)
    | (.error ending, p) => (ending, p)).1 = _ ↔ _
  rcases outcome (program s) { files := files } with ⟨ending | _, p⟩ <;> simp

/-- The command that generates a pamphlet breaks off for want of settings just if loading them breaks off. -/
theorem runGenerate_breaks_off_iff (s : Surroundings) (parsed : Parsed) (arguments : List String) (p : Progress) :
    (∃ fault, (outcome (runGenerate s parsed arguments) p).1 = .error (.settings fault)) ↔
      p.files.BreaksLoading s.reader (parsed.value? configName) := by
  rw [runGenerate, outcome_bind]
  rcases loadSettings_cases s.reader s.trackerUrl? (parsed.value? configName) p with ⟨hn, hr⟩ | ⟨hb, fault, ho⟩
  · refine iff_of_false ?_ hn
    rcases hr with ⟨settings, -, ho⟩ | ⟨_, line, -, ho⟩
    · rw [ho]
      rintro ⟨fault, hf⟩
      exact ((HasSettings.readArguments _ _).bind fun _ => HasSettings.generate _ _) p fault hf
    · rw [ho]
      rintro ⟨fault, ⟨⟩⟩
  · rw [ho]
    exact iff_of_true ⟨fault, rfl⟩ hb

/-- **A run breaks off for want of settings** just if it comes to them and loading them breaks off. -/
theorem run_breaks_off_iff (s : Surroundings) (files : Files) :
    (∃ fault, (run s files).1 = .settings fault) ↔
      ∃ parsed, s.ComesToSettings files parsed ∧ files.BreaksLoading s.reader (parsed.value? configName) := by
  simp only [fst_run_eq_settings_iff, Surroundings.ComesToSettings]
  cases hs : s.arguments with
  | nil =>
    refine iff_of_false ?_ ?_
    · rw [program, hs]
      rintro ⟨fault, ⟨⟩⟩
    · rintro ⟨parsed, ⟨⟨⟩, rest, ⟨⟩⟩, -⟩
  | cons first others =>
    rw [program, hs, List.isEmpty_cons, if_neg Bool.false_ne_true, outcome_bind]
    rcases hr : outcome (readProgram (first :: others)) { files := files } with ⟨ending | parsed, p⟩
    · refine iff_of_false ?_ ?_
      · rintro ⟨fault, hf⟩
        cases hf
        exact HasSettings.readProgram (first :: others) { files := files } fault (by rw [hr])
      · rintro ⟨parsed, ⟨⟨⟩, -⟩, -⟩
    · obtain rfl := eq_of_readProgram hr
      have hparsed (q : Parsed) : ((Except.ok parsed : Except Ending Parsed), ({ files := files } : Progress)) =
          (.ok q, { files := files }) ↔ q = parsed := by simp [eq_comm]
      simp only [hparsed, and_assoc, exists_eq_left]
      rw [outcome_bind]
      rcases hc : outcome (resolveCommand parsed.others) { files := files } with ⟨ending | ⟨topic, rest⟩, p⟩
      · refine iff_of_false ?_ ?_
        · rintro ⟨fault, hf⟩
          cases hf
          exact HasSettings.resolveCommand parsed.others { files := files } fault (by rw [hc])
        · rintro ⟨⟨rest, hn⟩, -⟩
          have hk := outcome_resolveCommand_eq_ok (p := { files := files }).mpr
            ⟨rfl, generateName, hn, topic?_eq_some_iff.mpr (.inl ⟨rfl, rfl⟩)⟩
          rw [hc] at hk
          cases hk
      · obtain ⟨rfl, name, hn, ht⟩ := outcome_resolveCommand_eq_ok.mp hc
        rcases topic?_eq_some_iff.mp ht with ⟨rfl, rfl⟩ | ⟨rfl, rfl⟩
        · rw [and_iff_right ⟨rest, hn⟩]
          exact runGenerate_breaks_off_iff s parsed rest { files := files }
        · refine iff_of_false ?_ ?_
          · rintro ⟨fault, hf⟩
            exact HasSettings.runMakeSettings s parsed rest _ fault hf
          · rintro ⟨⟨rest', hn'⟩, -⟩
            rw [hn] at hn'
            exact absurd (List.cons.inj hn').1 (by decide)

end ReleaseNotes.Command
