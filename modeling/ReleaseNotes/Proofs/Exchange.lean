import Mathlib.Data.List.TakeWhile
import Mathlib.Tactic.SplitIfs
import ReleaseNotes.Download.Fetch
import ReleaseNotes.Proofs.Chain
import ReleaseNotes.Proofs.Looks
import ReleaseNotes.Proofs.Run

/-!
# What happens while a note is fetched

An address is asked for, a reply is opened and closed, and a message is shown, one after another
(`TrackerSettings.exchanged`). A reply that is opened is closed whatever comes of reading it
(`outcome_thenClosing`), and a failure that is reported names the issue, with a hint exactly if a
host that cannot be found is behind it (`EndsIn`). These and the ends without a result are the contract of
fetching (`FetchContract`, `fetch_keeps_contract`).
-/

namespace ReleaseNotes

variable {ε δ α : Type} {t : TrackerSettings} {web : Web} {issue : Tracker.Issue} {g : Failures} {r : Reply}
variable {key url : String}

/-! ### The laws of an exchange -/

theorem outcome_thenClosing (work : Exchange ε α) (past : List Happening) :
    outcome work.thenClosing past = ((outcome work past).1, (outcome work past).2 ++ [.closed]) := rfl

theorem outcome_orElse (work : Exchange ε α) (handle : ε → Exchange δ α) (past : List Happening) :
    outcome (work.orElse handle) past = match outcome work past with
      | (.ok a, now) => (.ok a, now)
      | (.error e, now) => outcome (handle e) now := rfl

@[simp] theorem outcome_happen (h : Happening) (past : List Happening) :
    outcome (happen h : Exchange ε PUnit) past = (.ok ⟨⟩, past ++ [h]) := rfl

theorem outcome_map {σ β : Type} (f : α → β) (work : ExceptT ε (StateM σ) α) (s : σ) :
    outcome (f <$> work) s = ((outcome work s).1.map f, (outcome work s).2) := by
  rw [map_eq_pure_bind, outcome_bind]
  rcases outcome work s with ⟨_ | a, s'⟩ <;> rfl

/-! ### Hosts have no slash -/

theorem ofNat_ne_slash {n : Nat} (h : 0x61 ≤ n) : Char.ofNat n ≠ '/' := by
  intro he
  by_cases hv : n.isValidChar
  · have hnat := congrArg Char.toNat he
    rw [Char.ofNat, dif_pos hv] at hnat
    have : n = 0x2F := hnat
    omega
  · rw [Char.ofNat, dif_neg hv] at he
    cases he

theorem not_mem_lowerChar {c : Char} (hc : c ≠ '/') : '/' ∉ Text.lowerChar c := by
  -- The counterpart of a letter lies among the letters or behind them, and so behind the slash.
  have hstretches : ∀ s ∈ Text.lowerStretches, 0x61 ≤ (s.first : Int) + s.distance := by decide +kernel
  have hexpansions : ∀ e ∈ Text.lowerExpansions, '/' ∉ e.2.map Char.ofNat := by decide
  rw [Text.lowerChar, Text.counterpart?]
  split
  · next e he => exact hexpansions e (List.mem_of_find?_eq_some he)
  · cases hs : Text.lowerStretches.find? (·.contains c.toNat) with
    | none => simpa using hc.symm
    | some s =>
      have hle := hstretches s (List.mem_of_find?_eq_some hs)
      have hfirst : s.first ≤ c.toNat := by
        have := List.find?_some hs
        simp only [Text.Stretch.contains, Bool.and_eq_true, decide_eq_true_eq] at this
        exact this.1.1
      rw [Option.map_some, Option.getD_some, List.mem_singleton]
      exact (ofNat_ne_slash (by omega)).symm

theorem not_mem_lowerFrom {cs : List Char} (h : '/' ∉ cs) (before : List Char) :
    '/' ∉ Text.lowerFrom before cs := by
  induction cs generalizing before with
  | nil => exact h
  | cons c cs ih =>
    rw [List.mem_cons, not_or] at h
    rw [Text.lowerFrom]
    intro hm
    rcases List.mem_append.mp hm with hm | hm
    · split at hm
      · cases List.mem_singleton.mp hm
      · exact not_mem_lowerChar (Ne.symm h.1) hm
    · exact ih h.2 _ hm

theorem not_mem_hostPart (url : String) : '/' ∉ hostPart url := by
  rw [hostPart]
  split
  · intro hm
    have := List.mem_takeWhile_imp hm
    simp at this
  · exact List.not_mem_nil

theorem subset_afterLast (c : Char) (cs : List Char) : Text.afterLast c cs ⊆ cs := by
  intro d hd
  rw [Text.afterLast, List.mem_reverse] at hd
  exact List.mem_reverse.mp ((List.takeWhile_prefix _).subset hd)

theorem not_mem_lowerHost {cs : List Char} (h : '/' ∉ cs) : '/' ∉ (lowerHost cs).toList := by
  rw [lowerHost, String.toList_ofList]
  intro hm
  rcases List.mem_append.mp hm with hm | hm
  · exact not_mem_lowerFrom (fun hm => h ((List.takeWhile_prefix _).subset hm)) [] hm
  · exact h ((List.drop_suffix _ _).subset hm)

/-- The host of an address has no slash. -/
theorem not_mem_of_host? {host : String} (h : host? url = .ok (some host)) : '/' ∉ host.toList := by
  have hpart := not_mem_hostPart url
  rw [host?] at h
  generalize hostPart url = part at h hpart
  simp only at h
  split_ifs at h with hb hd hn
  · cases h
  simp only [Except.ok.injEq, Option.some.injEq] at h
  rw [← h]
  refine not_mem_lowerHost fun hm => hpart (subset_afterLast '@' _ ?_)
  split at hm
  · next rest hr => exact hr ▸ List.mem_cons_of_mem _ ((List.takeWhile_prefix _).subset hm)
  · next hr => exact (List.takeWhile_prefix _).subset hm

/-- The hint against a host that cannot be found can always be shown. -/
theorem exists_message_hostHint {named? : Option String} (h : host? url = .ok named?) :
    ∃ line, Terminal.message (Terminal.inLook "yellow" (hostHint named?)) = .ok line := by
  refine Terminal.exists_message_of_open Terminal.isLook_yellow ?_
  have hname : '/' ∉ (named?.getD "None").toList := by
    cases named? with
    | none => decide
    | some host => exact not_mem_of_host? h
  have hbefore : '/' ∉ "Unknown host '".toList := by decide
  have hmiddle : '/' ∉ "'. Can you ping this host from a shell window? ".toList := by decide
  have hafter : '/' ∉ "Check your network connection before running the generator again.".toList := by decide
  unfold hostHint
  simp only [String.toList_append, List.mem_append, not_or]
  exact ⟨⟨⟨hbefore, hname⟩, hmiddle⟩, hafter⟩

/-! ### The contract -/

/-- A reply says that something is wrong. -/
def Reply.IsWrong (r : Reply) : Prop :=
  400 ≤ r.status ∧ r.status < 600

theorem Reply.wrong?_eq_none_iff : r.wrong? url = none ↔ ¬ r.IsWrong := by
  rw [wrong?, IsWrong]
  dsimp only
  split_ifs with hclient hserver <;> simp_all <;> omega

/-- Whether a reply comes. -/
def Happening.isOpened : Happening → Bool
  | .opened => true
  | _ => false

/-- Every reply that comes is closed later. -/
def ClosesReplies (happenings : List Happening) : Prop :=
  ∀ before after, happenings = before ++ .opened :: after → .closed ∈ after

/-- What an answer comes to for the issue with a key, and what is shown of it. -/
inductive EndsIn (key url : String) : Answer → Except FetchFault Fetched → List String → Prop where
  /-- A document in a good reply is the note. -/
  | note {r : Reply} {d : Markup.Document} : ¬ r.IsWrong → Markup.Document.read r.content = .ok d →
      EndsIn key url (.reply r) (.ok (.note d)) []
  /-- A wrong reply is reported. -/
  | wrong {r : Reply} {wording : String} : r.IsWrong → r.wrong? url = some wording →
      EndsIn key url (.reply r) (.ok (.failed ⟨key, .failed .status wording, none⟩)) []
  /-- A good reply without a document is reported. -/
  | unreadable {r : Reply} {fault : Markup.Fault} : ¬ r.IsWrong →
      Markup.Document.read r.content = .error fault →
      EndsIn key url (.reply r) (.ok (.failed ⟨key, .unreadable fault, none⟩)) []
  /-- A failure of the download is reported. -/
  | failure {g : Failures} : g.first.kind.isDownload = true → ¬ g.LeadsToHost 0 →
      EndsIn key url (.failure g) (.ok (.failed ⟨key, g.trouble, none⟩)) []
  /-- If a host that cannot be found is behind it, it is reported with a hint that names the host, and the hint
  is shown. -/
  | hostFailure {g : Failures} {named? : Option String} {line : String} : g.first.kind.isDownload = true →
      g.LeadsToHost 0 → host? url = .ok named? →
      Terminal.message (Terminal.inLook "yellow" (hostHint named?)) = .ok line →
      EndsIn key url (.failure g) (.ok (.failed ⟨key, g.trouble, some (hostHint named?)⟩)) [line]
  /-- If that host cannot be named, the fault of its name is passed on. -/
  | nameless {g : Failures} {fault : HostFault} : g.first.kind.isDownload = true → g.LeadsToHost 0 →
      host? url = .error fault → EndsIn key url (.failure g) (.error (.host fault)) []
  /-- Any other failure is passed on. -/
  | stopped {g : Failures} : g.first.kind.isDownload = false →
      EndsIn key url (.failure g) (.error (.stopped g.first (g.message 0))) []

/-- What is reported has a hint just if a host that cannot be found is behind it. -/
theorem EndsIn.hint_iff {answer : Answer} {fault : NetworkFault} {lines : List String}
    (h : EndsIn key url answer (.ok (.failed fault)) lines) :
    fault.hint?.isSome ↔ ∃ g, answer = .failure g ∧ g.LeadsToHost 0 := by
  cases h with
  | wrong | unreadable => exact ⟨nofun, nofun⟩
  | @failure g hk hl => exact ⟨nofun, by rintro ⟨g, ⟨⟩, hleads⟩; exact absurd hleads hl⟩
  | @hostFailure g named? line hk hl hn hm => exact ⟨fun _ => ⟨g, rfl, hl⟩, fun _ => rfl⟩

/-- A hint is what is shown, and without one nothing is. -/
theorem EndsIn.length_lines {answer : Answer} {fault : NetworkFault} {lines : List String}
    (h : EndsIn key url answer (.ok (.failed fault)) lines) : lines.length = fault.hint?.toList.length := by
  cases h <;> rfl

theorem not_exists_error {α ε : Type} {a : α} : ¬ ∃ fault : ε, Except.ok a = .error fault := by
  rintro ⟨_, ⟨⟩⟩

/-- An answer comes to no result just if it is a failure of something else than a download, or has behind it a
host that cannot be named. -/
theorem EndsIn.error_iff {answer : Answer} {result : Except FetchFault Fetched} {lines : List String}
    (h : EndsIn key url answer result lines) :
    (∃ fault, result = .error fault) ↔ ∃ g, answer = .failure g ∧
      (g.first.kind.isDownload = false ∨ g.LeadsToHost 0 ∧ ∃ fault, host? url = .error fault) := by
  cases h with
  | note | wrong | unreadable =>
    refine ⟨fun h => absurd h not_exists_error, ?_⟩
    rintro ⟨g, ⟨⟩, -⟩
  | failure hk hl =>
    refine ⟨fun h => absurd h not_exists_error, ?_⟩
    rintro ⟨g, ⟨⟩, hk' | ⟨hl', -⟩⟩
    · rw [hk] at hk'
      cases hk'
    · exact absurd hl' hl
  | hostFailure hk hl hn =>
    refine ⟨fun h => absurd h not_exists_error, ?_⟩
    rintro ⟨g, ⟨⟩, hk' | ⟨-, fault, hn'⟩⟩
    · rw [hk] at hk'
      cases hk'
    · rw [hn] at hn'
      cases hn'
  | nameless hk hl hn => exact ⟨fun _ => ⟨_, rfl, .inr ⟨hl, _, hn⟩⟩, fun _ => ⟨_, rfl⟩⟩
  | stopped hk => exact ⟨fun _ => ⟨_, rfl, .inl hk⟩, fun _ => ⟨_, rfl⟩⟩

/-- What the question about the note of the issue with a key is to come to, and what is to happen on the
way. -/
structure AnswerContract (key : String) (request : Request) (answer : Answer)
    (result : Except FetchFault Fetched) (happenings : List Happening) : Prop where
  /-- The question is asked once, for a reply that may come in parts, and nothing else is asked. -/
  questions_eq : questions happenings = [(request, true)]
  /-- A reply is closed. -/
  closesReplies : ClosesReplies happenings
  /-- The answer comes to what it is to come to. -/
  endsIn : EndsIn key request.url answer result (linesOf happenings)
  /-- There is no other end without a result. -/
  error_iff : (∃ fault, result = .error fault) ↔ ∃ g, answer = .failure g ∧
    (g.first.kind.isDownload = false ∨ g.LeadsToHost 0 ∧ ∃ fault, host? request.url = .error fault)
  /-- A hint is given just if a host that cannot be found is behind a failure, and then it is shown once. -/
  hint_iff {fault : NetworkFault} : result = .ok (.failed fault) →
    (fault.hint?.isSome ↔ ∃ g, answer = .failure g ∧ g.LeadsToHost 0) ∧
      (linesOf happenings).length = fault.hint?.toList.length

/-- The question about the note with an identifier. -/
def TrackerSettings.questionAbout (t : TrackerSettings) (id : Int) : Request :=
  ⟨Tracker.noteAddress t.attachments (toString id) t.noteFilename, t.timeout?⟩

/-- What fetching the note of an issue is to do. -/
structure FetchContract (t : TrackerSettings) (web : Web) (issue : Tracker.Issue) : Prop where
  /-- What is said of it is the summary of what happens. -/
  fetch_eq : fetch t web issue = summaryOf (t.exchanged web issue)
  /-- An issue without a note asks for nothing. -/
  absent : issue.noteId? = none → t.exchanged web issue = (.ok .absent, [])
  /-- An identifier that is too long to be written asks for nothing. -/
  long {id : Int} : issue.noteId? = some id → Text.fitsDecimal id = false →
    t.exchanged web issue = (.error .longId, [])
  /-- For any other identifier there is an answer. -/
  answered {id : Int} : issue.noteId? = some id → Text.fitsDecimal id = true →
    AnswerContract issue.key (t.questionAbout id) (web (t.questionAbout id).url) (t.exchanged web issue).1
      (t.exchanged web issue).2

theorem noteUrl?_of_none (h : issue.noteId? = none) : issue.noteUrl? t.attachments t.noteFilename = .ok none := by
  rw [Tracker.Issue.noteUrl?, h]

theorem noteUrl?_of_fits {id : Int} (h : issue.noteId? = some id) (hf : Text.fitsDecimal id = true) :
    issue.noteUrl? t.attachments t.noteFilename = .ok (some (t.questionAbout id).url) := by
  rw [Tracker.Issue.noteUrl?, h]
  dsimp only
  rw [Text.decimal?, if_pos hf]
  rfl

theorem noteUrl?_of_long {id : Int} (h : issue.noteId? = some id) (hf : Text.fitsDecimal id = false) :
    issue.noteUrl? t.attachments t.noteFilename = .error ⟨id⟩ := by
  rw [Tracker.Issue.noteUrl?, h]
  dsimp only
  rw [Text.decimal?, hf]
  rfl

theorem closesReplies_of_reply (request : Request) (isStreamed : Bool) :
    ClosesReplies [.asked request isStreamed, .opened, .closed] := by
  intro before after h
  rcases before with _ | ⟨first, _ | ⟨second, _ | ⟨third, before⟩⟩⟩
  · cases h
  · cases h
    exact .head _
  · cases h
  · have hlength := congrArg List.length h
    simp at hlength

theorem closesReplies_of_no_reply {happenings : List Happening} (h : ∀ one ∈ happenings, one.isOpened = false) :
    ClosesReplies happenings := by
  rintro before after rfl
  cases h .opened (List.mem_append_right _ (.head _))

theorem EndsIn.answerContract {request : Request} {answer : Answer} {result : Except FetchFault Fetched}
    {happenings : List Happening} (h : EndsIn key request.url answer result (linesOf happenings))
    (hq : questions happenings = [(request, true)]) (hc : ClosesReplies happenings) :
    AnswerContract key request answer result happenings where
  questions_eq := hq
  closesReplies := hc
  endsIn := h
  error_iff := h.error_iff
  hint_iff := by
    rintro fault rfl
    exact ⟨h.hint_iff, h.length_lines⟩

/-! ### The ends of an exchange -/

theorem isUnknownHost_wrongReply (wording : String) : (wrongReply wording).isUnknownHost 0 = false := by
  simp [wrongReply, Failures.isUnknownHost, Failures.search, Failures.isHostAt, Failures.linksOf, Failure.links,
    Failure.carried, Failure.kept, Failure.files, FailureKind.isHost, Said.failure?, List.filterMap_cons]

theorem message_wrongReply (wording : String) : (wrongReply wording).message 0 = wording := by
  simp [wrongReply, Failures.message, Failures.written, Failures.sayings, Failure.kept, Failure.files,
    FailureKind.isNumbered, FailureKind.isDownload]

theorem exchanged_of_absent (h : issue.noteUrl? t.attachments t.noteFilename = .ok none) :
    t.exchanged web issue = (.ok .absent, []) := by
  rw [TrackerSettings.exchanged, TrackerSettings.exchange, h]
  rfl

theorem exchanged_of_long {fault : Tracker.LongId}
    (h : issue.noteUrl? t.attachments t.noteFilename = .error fault) :
    t.exchanged web issue = (.error .longId, []) := by
  rw [TrackerSettings.exchanged, TrackerSettings.exchange, h]
  rfl

/-- What is made of a download: its document, or what its trouble is reported as. -/
theorem exchanged_of_url (h : issue.noteUrl? t.attachments t.noteFilename = .ok (some url)) :
    t.exchanged web issue =
      match outcome (download web ⟨url, t.timeout?⟩) [] with
      | (.ok d, now) => (.ok (.note d), now)
      | (.error trouble, now) => outcome (explain issue.key url trouble) now := by
  have hexchange : t.exchanged web issue =
      outcome ((Fetched.note <$> download web ⟨url, t.timeout?⟩).orElse (explain issue.key url)) [] := by
    rw [TrackerSettings.exchanged, TrackerSettings.exchange, h]
    rfl
  rw [hexchange, outcome_orElse, outcome_map]
  rcases outcome (download web ⟨url, t.timeout?⟩) [] with ⟨_ | d, now⟩ <;> rfl

/-- A reply is opened and closed whatever it says. -/
theorem outcome_download_of_reply {request : Request} (hr : web request.url = .reply r) :
    outcome (download web request) [] =
      (match r.wrong? request.url with
        | some wording => .error (.failures (wrongReply wording))
        | none => (Markup.Document.read r.content).mapError .unreadable, [.asked request true, .opened, .closed]) := by
  have hask : outcome (ask web request) [] = (.ok r, [.asked request true, .opened]) := by
    simp [ask, outcome_bind, outcome_map, Except.map, hr]
  have hread (past : List Happening) : outcome (readReply r request.url) past = (match r.wrong? request.url with
      | some wording => .error (.failures (wrongReply wording))
      | none => (Markup.Document.read r.content).mapError .unreadable, past) := by
    rw [readReply]
    cases r.wrong? request.url with
    | some wording => rfl
    | none =>
      dsimp only
      cases Markup.Document.read r.content <;> rfl
  rw [download, outcome_bind_of_ok hask, outcome_thenClosing, hread]
  rfl

/-- A reply that says that something is wrong is reported, and it is opened and closed. -/
theorem exchanged_of_wrong {wording : String} (h : issue.noteUrl? t.attachments t.noteFilename = .ok (some url))
    (hr : web url = .reply r) (hw : r.wrong? url = some wording) :
    t.exchanged web issue = (.ok (.failed ⟨issue.key, .failed .status wording, none⟩),
      [.asked ⟨url, t.timeout?⟩ true, .opened, .closed]) := by
  rw [exchanged_of_url h, outcome_download_of_reply hr, hw]
  simp [explain, isUnknownHost_wrongReply, Failures.trouble, message_wrongReply]
  rfl

/-- A reply of which nothing is wrong comes to its document, and it is opened and closed. -/
theorem exchanged_of_right (h : issue.noteUrl? t.attachments t.noteFilename = .ok (some url))
    (hr : web url = .reply r) (hw : r.wrong? url = none) :
    t.exchanged web issue = (.ok (match Markup.Document.read r.content with
        | .ok d => .note d
        | .error fault => .failed ⟨issue.key, .unreadable fault, none⟩),
      [.asked ⟨url, t.timeout?⟩ true, .opened, .closed]) := by
  rw [exchanged_of_url h, outcome_download_of_reply hr, hw]
  dsimp only
  cases Markup.Document.read r.content <;> rfl

/-- Failures leave nothing open. -/
theorem outcome_download_of_failure {request : Request} (hg : web request.url = .failure g) :
    outcome (download web request) [] = (.error (.failures g), [.asked request true]) := by
  have hask : outcome (ask web request) [] = (.error (.failures g), [.asked request true]) := by
    simp [ask, outcome_bind, hg]
  rw [download, outcome_bind_of_error hask]

/-- What failures come to: a fault, a report, or a report with a hint, which is shown. -/
theorem endsIn_of_failures (key url : String) (g : Failures) (past : List Happening) :
    ∃ result lines, outcome (explain key url (.failures g)) past = (result, past ++ lines.map .shown) ∧
      EndsIn key url (.failure g) result lines := by
  cases hk : g.first.kind.isDownload with
  | false => exact ⟨_, [], by simp [explain, hk], .stopped hk⟩
  | true =>
    cases hu : g.isUnknownHost 0 with
    | false =>
      have hl : ¬ g.LeadsToHost 0 := fun hl => by
        rw [Failures.isUnknownHost_iff.mpr hl] at hu
        cases hu
      exact ⟨_, [], by simp [explain, hk, hu], .failure hk hl⟩
    | true =>
      have hl := Failures.isUnknownHost_iff.mp hu
      cases hn : host? url with
      | error fault => exact ⟨_, [], by simp [explain, showHint, hk, hu, hn], .nameless hk hl hn⟩
      | ok named? =>
        obtain ⟨line, hm⟩ := exists_message_hostHint hn
        exact ⟨_, [line], by simp [explain, showHint, hk, hu, hn, hm, outcome_map, Except.map],
          .hostFailure hk hl hn hm⟩

/-- What an answer comes to, and that nothing else happens on the way. -/
theorem answerContract_of_url (h : issue.noteUrl? t.attachments t.noteFilename = .ok (some url)) :
    AnswerContract issue.key ⟨url, t.timeout?⟩ (web url) (t.exchanged web issue).1 (t.exchanged web issue).2 := by
  cases ha : web url with
  | reply r =>
    have hcontract {result : Except FetchFault Fetched} (hends : EndsIn issue.key url (.reply r) result []) :
        AnswerContract issue.key ⟨url, t.timeout?⟩ (.reply r) result
          [.asked ⟨url, t.timeout?⟩ true, .opened, .closed] :=
      EndsIn.answerContract hends rfl (closesReplies_of_reply _ true)
    cases hw : r.wrong? url with
    | some wording =>
      have hwrong : r.IsWrong := by
        by_contra hn
        rw [Reply.wrong?_eq_none_iff.mpr hn] at hw
        cases hw
      rw [exchanged_of_wrong h ha hw]
      exact hcontract (.wrong hwrong hw)
    | none =>
      have hgood := Reply.wrong?_eq_none_iff.mp hw
      rw [exchanged_of_right h ha hw]
      cases hd : Markup.Document.read r.content with
      | ok d => exact hcontract (.note hgood hd)
      | error fault => exact hcontract (.unreadable hgood hd)
  | failure g =>
    obtain ⟨result, lines, hexplained, hends⟩ :=
      endsIn_of_failures issue.key url g [.asked ⟨url, t.timeout?⟩ true]
    rw [exchanged_of_url h, outcome_download_of_failure ha]
    dsimp only
    rw [hexplained]
    have hlines : linesOf ([.asked ⟨url, t.timeout?⟩ true] ++ lines.map .shown) = lines := by
      simp [linesOf, Happening.line?, List.filterMap_cons, List.filterMap_map, Function.comp_def]
    have hquestions : questions ([.asked ⟨url, t.timeout?⟩ true] ++ lines.map .shown) =
        [(⟨url, t.timeout?⟩, true)] := by
      simp [questions, Happening.question?, List.filterMap_map, Function.comp_def]
    exact EndsIn.answerContract (by rwa [hlines]) hquestions
      (closesReplies_of_no_reply (by simp [Happening.isOpened]))

/-! ### What fetching comes to -/

theorem exchanged_of_id (t : TrackerSettings) (web : Web) {id : Int} (h : issue.noteId? = some id)
    (hf : Text.fitsDecimal id = true) :
    AnswerContract issue.key (t.questionAbout id) (web (t.questionAbout id).url) (t.exchanged web issue).1
      (t.exchanged web issue).2 :=
  answerContract_of_url (noteUrl?_of_fits h hf)

/-- A note that is fetched is the document in the reply to the question about it. -/
theorem exists_reply_of_fetch {note : Markup.Document} (h : (fetch t web issue).result = .ok (.note note)) :
    ∃ id r, issue.noteId? = some id ∧ web (t.questionAbout id).url = .reply r ∧ ¬ r.IsWrong ∧
      Markup.Document.read r.content = .ok note := by
  have he : (t.exchanged web issue).1 = .ok (.note note) := h
  cases hn : issue.noteId? with
  | none =>
    rw [exchanged_of_absent (noteUrl?_of_none hn)] at he
    cases he
  | some id =>
    cases hf : Text.fitsDecimal id with
    | false =>
      rw [exchanged_of_long (noteUrl?_of_long hn hf)] at he
      cases he
    | true =>
      have hends := (exchanged_of_id t web hn hf).endsIn
      rw [he] at hends
      generalize ha : web (t.questionAbout id).url = answer at hends
      generalize linesOf (t.exchanged web issue).2 = lines at hends
      cases hends with
      | @note r _ hgood hread => exact ⟨id, r, rfl, ha, hgood, hread⟩

/-- Fetching says that there is no note only of issues without one. -/
theorem noteId?_of_fetch (h : (fetch t web issue).result = .ok .absent) : issue.noteId? = none := by
  have he : (t.exchanged web issue).1 = .ok .absent := h
  cases hn : issue.noteId? with
  | none => rfl
  | some id =>
    cases hf : Text.fitsDecimal id with
    | false =>
      rw [exchanged_of_long (noteUrl?_of_long hn hf)] at he
      cases he
    | true =>
      have hends := (exchanged_of_id t web hn hf).endsIn
      rw [he] at hends
      generalize web (t.questionAbout id).url = answer at hends
      cases hends

/-- **Fetching keeps its contract**, for every issue and whatever the network answers. -/
theorem fetch_keeps_contract (t : TrackerSettings) (web : Web) (issue : Tracker.Issue) :
    FetchContract t web issue where
  fetch_eq := rfl
  absent h := exchanged_of_absent (noteUrl?_of_none h)
  long h hf := exchanged_of_long (noteUrl?_of_long h hf)
  answered h hf := exchanged_of_id t web h hf

/-- A failure of a connection behind which is a host that cannot be found, and which that host leads back to. -/
def lostHost : Failures :=
  [{ kind := .connection, said := [.text "no connection"], context? := some 1 },
   { kind := .unresolved, said := [.text "no such host"], context? := some 0 }]

/-- A web that has the note of one address and finds no host for the others. -/
def patchyWeb (url : String) : Web := fun asked =>
  if asked = url then .reply ⟨200, "OK", Text.utf8 "<html/>".toList⟩ else .failure lostHost

/-- A note that is there is asked for once, and the reply is closed. Where the host of a note cannot be found, that is
asked for once too, and the hint in what is reported is shown. -/
theorem contract_of_patchyWeb :
    let t : TrackerSettings := {}
    let web := patchyWeb (t.questionAbout 7).url
    let there := t.exchanged web ⟨"D-1", "c", some 7⟩
    let lost := t.exchanged web ⟨"D-2", "c", some 8⟩
    (∃ d, there.1 = .ok (.note d)) ∧ questions there.2 = [(t.questionAbout 7, true)] ∧ ClosesReplies there.2 ∧
      questions lost.2 = [(t.questionAbout 8, true)] ∧
      ∃ named? line, lost.1 = .ok (.failed ⟨"D-2", lostHost.trouble, some (hostHint named?)⟩) ∧
        linesOf lost.2 = [line] := by
  intro t web there lost
  have hthere := (fetch_keeps_contract t web ⟨"D-1", "c", some 7⟩).answered rfl (by decide +kernel)
  have hlost := (fetch_keeps_contract t web ⟨"D-2", "c", some 8⟩).answered rfl (by decide +kernel)
  refine ⟨?_, hthere.questions_eq, hthere.closesReplies, hlost.questions_eq, ?_⟩
  · have hreply : web (t.questionAbout 7).url = .reply ⟨200, "OK", Text.utf8 "<html/>".toList⟩ := if_pos rfl
    have hread : (Markup.Document.read (Text.utf8 "<html/>".toList)).isOk = true := by decide +kernel
    have hends := hthere.endsIn
    rw [hreply] at hends
    change EndsIn _ _ _ there.1 (linesOf there.2) at hends
    generalize there.1 = result at hends
    generalize linesOf there.2 = lines at hends
    cases hends with
    | note hgood hd => exact ⟨_, rfl⟩
    | wrong hwrong _ => exact absurd hwrong.1 (by decide)
    | unreadable _ hd =>
      rw [hd] at hread
      cases hread
  · have hfailure : web (t.questionAbout 8).url = .failure lostHost := if_neg (by decide +kernel)
    have hleads : lostHost.LeadsToHost 0 := ⟨1, .single (List.Mem.head _), rfl⟩
    have hnamed : (host? (t.questionAbout 8).url).isOk = true := by decide +kernel
    have hends := hlost.endsIn
    rw [hfailure] at hends
    change EndsIn _ _ _ lost.1 (linesOf lost.2) at hends
    generalize lost.1 = result at hends
    generalize linesOf lost.2 = lines at hends
    cases hends with
    | failure _ hl => exact absurd hleads hl
    | hostFailure => exact ⟨_, _, rfl, rfl⟩
    | nameless _ _ hn =>
      rw [hn] at hnamed
      cases hnamed
    | stopped hk => cases hk

end ReleaseNotes
