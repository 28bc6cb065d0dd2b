import Mathlib.Order.Bounds.Defs
import ReleaseNotes.Proofs.Demands
import ReleaseNotes.Proofs.Identifier

/-!
# The latest note

Of the attachments of an item that have the name of notes, the one with the highest identifier is the note, unless
all identifiers are negative (`Tracker.highestId?`). The scan of the attachments finds it
(`Tracker.latestNoteId?_eq_ok`), and a malformed identifier of one of them is a fault wherever it stands
(`Tracker.latestNoteId?_eq_error`). So attachments may change their order, and others may be added that have another
name or no higher identifier, and the note stays the same (`Tracker.latest_note_wins`).
-/

namespace ReleaseNotes

open Markup

namespace Tracker

variable {item : Node} {attachment : Node} {noteFile : String} {id n : Int} {latest? : Option Int}

/-! ### Identifiers of attachments -/

/-- All attachments of an item: they stand, however deep, in the first element for attachments. -/
def attachmentsOf (item : Node) : List Node :=
  ((item.descendant? attachmentsLabel).map fun attachments => attachments.descendants attachmentLabel).getD []

theorem noteAttachments_eq (noteFile : String) (item : Node) :
    noteAttachments noteFile item = (attachmentsOf item).filter (isNote noteFile) := by
  unfold noteAttachments attachmentsOf
  cases item.descendant? attachmentsLabel <;> rfl

/-- An attachment has an identifier, and the number is that. -/
def HasId (attachment : Node) (id : Int) : Prop :=
  ∃ text, attachment.attribute? idLabel = some text ∧ IsIdentifier text.toList id

/-- All attachments of an item that have the name of notes have an identifier. -/
def NotesHaveIds (noteFile : String) (item : Node) : Prop :=
  ∀ attachment ∈ noteAttachments noteFile item, ∃ id, HasId attachment id

/-- The identifiers, not negative, of the attachments of an item that have the name of notes. -/
def noteIds (noteFile : String) (item : Node) : Set Int :=
  { id | 0 ≤ id ∧ ∃ attachment ∈ noteAttachments noteFile item, HasId attachment id }

/-- An attachment is no later note than the latest one: it has another name, or its identifier is negative or not
higher. -/
def IsNoLater (noteFile : String) (latest? : Option Int) (attachment : Node) : Prop :=
  isNote noteFile attachment = false ∨
    ∃ id, HasId attachment id ∧ (id < 0 ∨ ∃ latest, latest? = some latest ∧ id ≤ latest)

/-- The identifier of an attachment, if it is a number. -/
def attachedId? (attachment : Node) : Option Int :=
  attachmentId? (writtenId attachment).toList

/-- An attachment without an identifier is read as one whose identifier is the empty text, which is no number. -/
theorem attachedId?_eq_some_iff : attachedId? attachment = some id ↔ HasId attachment id := by
  unfold attachedId? HasId writtenId
  cases attachment.attribute? idLabel with
  | none => exact iff_of_false nofun nofun
  | some text => simp [attachmentId?_eq_some_iff]

theorem isSome_attachedId?_iff : (attachedId? attachment).isSome ↔ ∃ id, HasId attachment id := by
  simp only [Option.isSome_iff_exists, attachedId?_eq_some_iff]

/-! ### The highest identifier -/

/-- The highest of some identifiers, if there is one that is not negative. -/
def highestId? (ids : List Int) : Option Int :=
  (ids.filter (0 ≤ ·)).max?

theorem highestId?_of_perm {ids ids' : List Int} (h : ids.Perm ids') : highestId? ids = highestId? ids' := by
  have hmem : ∀ id, id ∈ ids.filter (0 ≤ ·) ↔ id ∈ ids'.filter (0 ≤ ·) := fun id => (h.filter _).mem_iff
  rw [highestId?, highestId?]
  cases hmax : (ids'.filter (0 ≤ ·)).max? with
  | none =>
    rw [List.max?_eq_none_iff] at hmax ⊢
    rw [hmax] at hmem
    exact List.eq_nil_iff_forall_not_mem.mpr fun id hid => List.not_mem_nil ((hmem id).mp hid)
  | some n =>
    rw [List.max?_eq_some_iff] at hmax ⊢
    exact ⟨(hmem n).mpr hmax.1, fun id hid => hmax.2 id ((hmem id).mp hid)⟩

/-- The highest of all is the highest of the first ones, or of the others. -/
theorem max?_toList_append (l k : List Int) : (l.max?.toList ++ k).max? = (l ++ k).max? := by
  cases l with
  | nil => rfl
  | cons a l =>
    rw [List.max?_cons', Option.toList_some, List.singleton_append, List.max?_cons', List.cons_append,
      List.max?_cons', List.foldl_append]

theorem laterNote_eq (latest? : Option Int) (id : Int) :
    laterNote latest? id = (latest?.toList ++ [id].filter (0 ≤ ·)).max? := by
  unfold laterNote
  by_cases hneg : id < 0
  · rw [if_pos hneg, List.filter_cons_of_neg (by simpa using hneg)]
    cases latest? <;> rfl
  · rw [if_neg hneg, List.filter_cons_of_pos (by simpa using hneg), List.filter_nil]
    cases latest? with
    | none => rfl
    | some latest =>
      dsimp only
      rw [Option.toList_some, List.singleton_append, List.max?_cons', List.foldl_cons, List.foldl_nil]
      split <;> congr 1 <;> omega

/-- The scan of attachments whose identifiers are numbers finds the highest. -/
theorem latestNote_eq_ok {attachments : List Node}
    (h : ∀ attachment ∈ attachments.filter (isNote noteFile), (attachedId? attachment).isSome) :
    latestNote noteFile latest? attachments =
      .ok (latest?.toList ++ ((attachments.filter (isNote noteFile)).filterMap attachedId?).filter (0 ≤ ·)).max? := by
  induction attachments generalizing latest? with
  | nil => cases latest? <;> rfl
  | cons attachment rest ih =>
    rw [latestNote_cons]
    cases hn : isNote noteFile attachment with
    | false =>
      rw [List.filter_cons_of_neg (ne_true_of_eq_false hn)] at h ⊢
      exact ih h
    | true =>
      rw [List.filter_cons_of_pos hn] at h ⊢
      obtain ⟨hsome, hrest⟩ := List.forall_mem_cons.mp h
      obtain ⟨id, hid⟩ := Option.isSome_iff_exists.mp hsome
      rw [if_pos rfl, readAttachmentId_eq_ok_iff_attachmentId?.mpr hid, ok_bind, ih hrest, laterNote_eq,
        max?_toList_append, List.filterMap_cons_some hid, List.append_assoc, ← List.filter_append]
      rfl

/-- If all identifiers are numbers, the highest is found. -/
theorem latestNoteId?_eq_ok (h : NotesHaveIds noteFile item) :
    latestNoteId? item noteFile = .ok (highestId? ((noteAttachments noteFile item).filterMap attachedId?)) := by
  have hids : ∀ attachment ∈ noteAttachments noteFile item, (attachedId? attachment).isSome := fun attachment hmem =>
    isSome_attachedId?_iff.mpr (h attachment hmem)
  revert hids
  unfold latestNoteId? noteAttachments
  cases item.descendant? attachmentsLabel with
  | none => exact fun _ => rfl
  | some attachments => exact latestNote_eq_ok

theorem needsId_cases (attachment : Node) :
    needsId attachment = .ok () ∧ (∃ id, HasId attachment id) ∨
      needsId attachment = .error (.badAttachmentId (writtenId attachment)) ∧ ¬ ∃ id, HasId attachment id := by
  rw [← isSome_attachedId?_iff, attachedId?, needsId]
  cases attachmentId? (writtenId attachment).toList with
  | none => exact .inr ⟨rfl, nofun⟩
  | some id => exact .inl ⟨rfl, rfl⟩

/-- If some identifier is no number, the scan fails with the fault of an identifier, whatever the others are. -/
theorem latestNoteId?_eq_error (h : ¬ NotesHaveIds noteFile item) :
    ∃ text, latestNoteId? item noteFile = .error (.badAttachmentId text) := by
  have hpassed := passed_latestNoteId? item noteFile
  cases hscan : latestNoteId? item noteFile with
  | ok found =>
    rw [hscan] at hpassed
    refine absurd (fun attachment hmem => ?_) h
    have hok := inTurn_eq_ok_iff.mp hpassed.symm _ (List.mem_map_of_mem hmem)
    rcases needsId_cases attachment with ⟨-, hid⟩ | ⟨herror, -⟩
    · exact hid
    · rw [herror] at hok
      cases hok
  | error fault =>
    rw [hscan] at hpassed
    obtain ⟨before, after, hsplit, -⟩ := inTurn_eq_error_iff.mp hpassed.symm
    have hmem : Except.error fault ∈ (noteAttachments noteFile item).map needsId := by
      rw [hsplit]
      exact List.mem_append_right _ (.head _)
    obtain ⟨attachment, -, hfault⟩ := List.mem_map.mp hmem
    rcases needsId_cases attachment with ⟨hok, -⟩ | ⟨herror, -⟩
    · rw [hok] at hfault
      cases hfault
    · rw [herror] at hfault
      cases hfault
      exact ⟨writtenId attachment, rfl⟩

/-- An identifier that is not negative is among those that the highest is taken of. -/
theorem mem_noteIds_iff : id ∈ noteIds noteFile item ↔
    id ∈ ((noteAttachments noteFile item).filterMap attachedId?).filter (0 ≤ ·) := by
  simp only [noteIds, Set.mem_ofPred_eq, List.mem_filter, List.mem_filterMap, attachedId?_eq_some_iff,
    decide_eq_true_eq, and_comm]

theorem latestNoteId?_eq_some_iff (h : NotesHaveIds noteFile item) :
    latestNoteId? item noteFile = .ok (some n) ↔ IsGreatest (noteIds noteFile item) n := by
  rw [latestNoteId?_eq_ok h, Except.ok.injEq, highestId?, List.max?_eq_some_iff]
  exact and_congr mem_noteIds_iff.symm (forall_congr' fun id => imp_congr_left mem_noteIds_iff.symm)

theorem latestNoteId?_eq_none_iff (h : NotesHaveIds noteFile item) :
    latestNoteId? item noteFile = .ok none ↔ noteIds noteFile item = ∅ := by
  rw [latestNoteId?_eq_ok h, Except.ok.injEq, highestId?, List.max?_eq_none_iff, List.eq_nil_iff_forall_not_mem,
    Set.eq_empty_iff_forall_notMem]
  exact forall_congr' fun id => not_congr mem_noteIds_iff.symm

/-! ### Other attachments -/

section Added

variable {item' : Node} {added : List Node}

theorem mem_noteAttachments_of_perm (h : (attachmentsOf item').Perm (attachmentsOf item ++ added)) :
    attachment ∈ noteAttachments noteFile item' ↔
      attachment ∈ noteAttachments noteFile item ∨ attachment ∈ added ∧ isNote noteFile attachment := by
  rw [noteAttachments_eq, noteAttachments_eq, List.mem_filter, List.mem_filter, h.mem_iff, List.mem_append,
    or_and_right]

/-- One attachment has one identifier. -/
theorem HasId.eq {id id' : Int} (h : HasId attachment id) (h' : HasId attachment id') : id = id' := by
  rw [← attachedId?_eq_some_iff] at h h'
  exact Option.some_inj.mp (h.symm.trans h')

theorem notesHaveIds_of_perm (h : (attachmentsOf item').Perm (attachmentsOf item ++ added))
    (hids : NotesHaveIds noteFile item) (hadded : ∀ attachment ∈ added, IsNoLater noteFile latest? attachment) :
    NotesHaveIds noteFile item' := by
  intro attachment hmem
  rcases (mem_noteAttachments_of_perm h).mp hmem with hmem | ⟨hmem, hnote⟩
  · exact hids attachment hmem
  · rcases hadded attachment hmem with hother | ⟨id, hid, -⟩
    · rw [hother] at hnote
      cases hnote
    · exact ⟨id, hid⟩

/-- The identifiers are those that there were, and others that are not higher than the latest one. -/
theorem mem_noteIds_of_perm (h : (attachmentsOf item').Perm (attachmentsOf item ++ added))
    (hadded : ∀ attachment ∈ added, IsNoLater noteFile latest? attachment) (hid : id ∈ noteIds noteFile item') :
    id ∈ noteIds noteFile item ∨ ∃ latest, latest? = some latest ∧ id ≤ latest := by
  obtain ⟨hpos, attachment, hmem, hid⟩ := hid
  rcases (mem_noteAttachments_of_perm h).mp hmem with hmem | ⟨hmem, hnote⟩
  · exact .inl ⟨hpos, attachment, hmem, hid⟩
  · rcases hadded attachment hmem with hother | ⟨id', hid', hlow⟩
    · rw [hother] at hnote
      cases hnote
    · obtain rfl := hid.eq hid'
      exact .inr (hlow.resolve_left (Int.not_lt.mpr hpos))

theorem noteIds_subset_of_perm (h : (attachmentsOf item').Perm (attachmentsOf item ++ added)) :
    noteIds noteFile item ⊆ noteIds noteFile item' := by
  rintro id ⟨hpos, attachment, hmem, hid⟩
  exact ⟨hpos, attachment, (mem_noteAttachments_of_perm h).mpr (.inl hmem), hid⟩

/-- The note stays the same when attachments change their order and others are added that are no later notes. -/
theorem latestNoteId?_of_perm (h : (attachmentsOf item').Perm (attachmentsOf item ++ added))
    (hlatest : latestNoteId? item noteFile = .ok latest?)
    (hadded : ∀ attachment ∈ added, IsNoLater noteFile latest? attachment) :
    latestNoteId? item' noteFile = .ok latest? := by
  have hids : NotesHaveIds noteFile item := by
    by_contra hids
    obtain ⟨text, herror⟩ := latestNoteId?_eq_error hids
    rw [herror] at hlatest
    cases hlatest
  have hids' := notesHaveIds_of_perm h hids hadded
  cases latest? with
  | none =>
    rw [latestNoteId?_eq_none_iff hids] at hlatest
    rw [latestNoteId?_eq_none_iff hids', Set.eq_empty_iff_forall_notMem]
    intro id hid
    rcases mem_noteIds_of_perm h hadded hid with hid | ⟨latest, hnone, -⟩
    · rw [hlatest] at hid
      exact hid
    · cases hnone
  | some n =>
    rw [latestNoteId?_eq_some_iff hids] at hlatest
    rw [latestNoteId?_eq_some_iff hids']
    refine ⟨noteIds_subset_of_perm h hlatest.1, fun id hid => ?_⟩
    rcases mem_noteIds_of_perm h hadded hid with hid | ⟨latest, hsome, hle⟩
    · exact hlatest.2 hid
    · cases hsome
      exact hle

end Added

/-- There are no identifiers to choose from if there are no attachments, or none with the name of notes and an
identifier that is not negative. -/
theorem noteIds_eq_empty_iff : noteIds noteFile item = ∅ ↔ item.descendant? attachmentsLabel = none ∨
    ¬ ∃ attachment ∈ noteAttachments noteFile item, ∃ id, 0 ≤ id ∧ HasId attachment id := by
  have hnothing : (∃ id, id ∈ noteIds noteFile item) ↔
      ∃ attachment ∈ noteAttachments noteFile item, ∃ id, 0 ≤ id ∧ HasId attachment id := by
    constructor
    · rintro ⟨id, hpos, attachment, hmem, hid⟩
      exact ⟨attachment, hmem, id, hpos, hid⟩
    · rintro ⟨attachment, hmem, id, hpos, hid⟩
      exact ⟨id, hpos, attachment, hmem, hid⟩
  rw [Set.eq_empty_iff_forall_notMem, ← not_exists, hnothing, iff_or_self]
  rintro hnone ⟨attachment, hmem, -⟩
  rw [noteAttachments, hnone] at hmem
  cases hmem

/-- **The latest note wins.** An identifier of an attachment with the name of notes that is missing or no number is a
fault, wherever it stands. Otherwise the highest identifier that is not negative is found, or none if there is none;
and no order of the attachments and no attachments that are no later notes make a difference. -/
theorem latest_note_wins (item : Node) (noteFile : String) :
    ((∃ text, latestNoteId? item noteFile = .error (.badAttachmentId text)) ↔
      ∃ attachment ∈ noteAttachments noteFile item, ¬ ∃ id, HasId attachment id) ∧
    (latestNoteId? item noteFile = .ok none ↔ NotesHaveIds noteFile item ∧
      (item.descendant? attachmentsLabel = none ∨
        ¬ ∃ attachment ∈ noteAttachments noteFile item, ∃ id, 0 ≤ id ∧ HasId attachment id)) ∧
    (∀ n, latestNoteId? item noteFile = .ok (some n) ↔ NotesHaveIds noteFile item ∧
      IsGreatest (noteIds noteFile item) n) ∧
    (∀ item' added latest?, (attachmentsOf item').Perm (attachmentsOf item ++ added) →
      latestNoteId? item noteFile = .ok latest? → (∀ attachment ∈ added, IsNoLater noteFile latest? attachment) →
      latestNoteId? item' noteFile = .ok latest?) := by
  have hfails : (∃ attachment ∈ noteAttachments noteFile item, ¬ ∃ id, HasId attachment id) ↔
      ¬ NotesHaveIds noteFile item := by
    simp only [NotesHaveIds, not_forall, exists_prop]
  rw [hfails]
  by_cases hids : NotesHaveIds noteFile item
  · refine ⟨iff_of_false ?_ (not_not_intro hids), ?_, fun n => ?_, fun _ _ _ h hlatest =>
      latestNoteId?_of_perm h hlatest⟩
    · rintro ⟨text, herror⟩
      rw [latestNoteId?_eq_ok hids] at herror
      cases herror
    · rw [latestNoteId?_eq_none_iff hids, noteIds_eq_empty_iff, and_iff_right hids]
    · rw [latestNoteId?_eq_some_iff hids, and_iff_right hids]
  · obtain ⟨text, herror⟩ := latestNoteId?_eq_error hids
    refine ⟨iff_of_true ⟨text, herror⟩ hids, iff_of_false ?_ (fun h => hids h.1), fun n => iff_of_false ?_ fun h =>
      hids h.1, fun _ _ _ h hlatest => latestNoteId?_of_perm h hlatest⟩
    all_goals
      rw [herror]
      exact nofun

/-! ### A note that is uploaded again -/

/-- An attachment with a name and an identifier as it is written. -/
def upload (name id : String) : Node :=
  .element (.plain attachmentLabel [.plain nameLabel name, .plain idLabel id]) []

/-- An item with something in its element for attachments. -/
def itemWith (content : List Node) : Node :=
  .element (.plain itemLabel []) [.element (.plain attachmentsLabel []) content]

/-- Two uploads of a note change their places, one of them into a folder, and three attachments are added: one of
another name and without a number, one with a negative identifier and one with the same identifier in decimal. The
note stays the same. -/
theorem latest_note_of_uploads :
    latestNoteId? (itemWith [upload "note" "0x1F", upload "note" "7"]) "note" = .ok (some 31) ∧
    latestNoteId? (itemWith [.element (.plain "folder" []) [upload "note" "7"], upload "note" "0x1F",
      upload "picture" "first", upload "note" "-40", upload "note" " +31 "]) "note" = .ok (some 31) := by
  have hfirst : latestNoteId? (itemWith [upload "note" "0x1F", upload "note" "7"]) "note" = .ok (some 31) := by
    decide +kernel
  refine ⟨hfirst, (latest_note_wins _ _).2.2.2 _ [upload "picture" "first", upload "note" "-40", upload "note" " +31 "]
    (some 31) (.append_right _ (.swap _ _ [])) hfirst ?_⟩
  have hnegative : HasId (upload "note" "-40") (-40) := attachedId?_eq_some_iff.mp (by decide +kernel)
  have hsame : HasId (upload "note" " +31 ") 31 := attachedId?_eq_some_iff.mp (by decide +kernel)
  exact List.forall_mem_cons.mpr ⟨.inl (by decide +kernel), List.forall_mem_cons.mpr
    ⟨.inr ⟨-40, hnegative, .inl (by decide)⟩, List.forall_mem_singleton.mpr (.inr ⟨31, hsame, .inr ⟨31, rfl, le_rfl⟩⟩)⟩⟩

end Tracker

end ReleaseNotes
