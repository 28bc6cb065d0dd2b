import Mathlib.Data.List.Forall2
import ReleaseNotes.Proofs.Latest

/-!
# Exported records

The tracker keeps records, and a report is what it exports: one item for each record, at any depth and among any
other elements (`Tracker.IsExport`). An item has a key, a title with the key in brackets before it, and perhaps
attachments, in any order and again among other elements (`Tracker.Record.Parts`). Reading the report gives back what
was exported, record by record (`Tracker.export_read_back`).
-/

namespace ReleaseNotes

open Markup

namespace Markup

variable {α : Type} {label : String} {describes : Node → α → Prop} {n : Node} {content : List Node} {as : List α}

/-! ### Elements with a name, at any depth -/

/-- Some content holds, at any depth, elements with a name that describe some values: in document order, one element
for each value. -/
inductive Holds (label : String) (describes : Node → α → Prop) : List Node → List α → Prop where
  /-- There is nothing, and nothing is described. -/
  | nothing : Holds label describes [] []
  /-- An element with the name describes a value, and what stands in it and after it describes the next ones. -/
  | named {n : Node} {rest : List Node} {a : α} {inner after : List α} (hname : n.isNamed label)
      (ha : describes n a) (hinner : Holds label describes n.content inner) (hrest : Holds label describes rest after) :
      Holds label describes (n :: rest) (a :: inner ++ after)
  /-- Another node describes nothing itself. -/
  | other {n : Node} {rest : List Node} {inner after : List α} (hname : n.isNamed label = false)
      (hinner : Holds label describes n.content inner) (hrest : Holds label describes rest after) :
      Holds label describes (n :: rest) (inner ++ after)

/-- The elements in a node, itself included, that have a name. -/
def Node.named (label : String) (n : Node) : List Node :=
  n.family.filter (Node.isNamed label)

theorem Node.descendants_eq_flatMap (label : String) (n : Node) :
    n.descendants label = n.content.flatMap (Node.named label) := by
  rw [Node.descendants, familyOfAll_eq_flatMap, List.filter_flatMap]
  rfl

theorem Node.descendant?_eq_head? (label : String) (n : Node) : n.descendant? label = (n.descendants label).head? :=
  List.head?_filter.symm

theorem exists_append_of_forall₂ {α β : Type} {R : α → β → Prop} {l l' : List α} {k : List β}
    (h : List.Forall₂ R (l ++ l') k) :
    ∃ before after, k = before ++ after ∧ List.Forall₂ R l before ∧ List.Forall₂ R l' after := by
  induction l generalizing k with
  | nil => exact ⟨[], k, rfl, .nil, h⟩
  | cons a l ih =>
    cases h with
    | @cons a b _ _ hab h =>
      obtain ⟨before, after, rfl, hbefore, hafter⟩ := ih h
      exact ⟨b :: before, after, rfl, .cons hab hbefore, hafter⟩

theorem Holds.forall₂ (h : Holds label describes content as) :
    List.Forall₂ describes ((familyOfAll content).filter (Node.isNamed label)) as := by
  induction h with
  | nothing => exact .nil
  | named hname ha _ _ ihinner ihrest =>
    rw [familyOfAll, Node.family_eq, List.cons_append, List.filter_cons_of_pos hname, List.filter_append]
    exact .cons ha (List.rel_append ihinner ihrest)
  | other hname _ _ ihinner ihrest =>
    rw [familyOfAll, Node.family_eq, List.cons_append, List.filter_cons_of_neg (ne_true_of_eq_false hname),
      List.filter_append]
    exact List.rel_append ihinner ihrest

mutual

theorem holds_inner_of_forall₂ (n : Node) (as : List α)
    (h : List.Forall₂ describes ((familyOfAll n.content).filter (Node.isNamed label)) as) :
    Holds label describes n.content as :=
  match n with
  | .element _ content => holds_of_forall₂ content as h
  | .text _ | .comment _ | .instruction _ _ | .reference _ => by
    cases h
    exact .nothing

theorem holds_of_forall₂ (content : List Node) (as : List α)
    (h : List.Forall₂ describes ((familyOfAll content).filter (Node.isNamed label)) as) :
    Holds label describes content as :=
  match content with
  | [] => by
    cases h
    exact .nothing
  | n :: rest => by
    rw [familyOfAll, Node.family_eq, List.cons_append] at h
    cases hname : n.isNamed label with
    | true =>
      rw [List.filter_cons_of_pos hname, List.filter_append] at h
      cases h with
      | cons ha h =>
        obtain ⟨inner, after, rfl, hinner, hafter⟩ := exists_append_of_forall₂ h
        exact .named hname ha (holds_inner_of_forall₂ n inner hinner) (holds_of_forall₂ rest after hafter)
    | false =>
      rw [List.filter_cons_of_neg (ne_true_of_eq_false hname), List.filter_append] at h
      obtain ⟨inner, after, rfl, hinner, hafter⟩ := exists_append_of_forall₂ h
      exact .other hname (holds_inner_of_forall₂ n inner hinner) (holds_of_forall₂ rest after hafter)

end

/-- What a node holds is found in it by name, and in that order. -/
theorem holds_iff : Holds label describes n.content as ↔ List.Forall₂ describes (n.descendants label) as :=
  ⟨Holds.forall₂, holds_inner_of_forall₂ n as⟩

end Markup

namespace Tracker

variable {n item : Node} {label label' noteFile : String}

/-! ### Records and what describes them -/

/-- A file that was uploaded for an issue, with its identifier as the tracker writes it. -/
structure Upload where
  /-- The name of the file. -/
  name : String
  /-- The identifier as it is written. -/
  spelling : String
  /-- The identifier. -/
  id : Int
  /-- What is written is read as the identifier. -/
  reads : readAttachmentId spelling = .ok id

/-- An issue as the tracker keeps it. -/
structure Record where
  /-- The key. -/
  key : String
  /-- The title. -/
  title : String
  /-- The files that were uploaded; an issue need not have a list of them. -/
  uploads? : Option (List Upload)
  /-- No key has a closing bracket. -/
  unbracketed : ']' ∉ key.toList

variable {record : Record}

/-- The issue that a record is read as: its note is the upload of that name with the highest identifier. -/
def Record.issue (noteFile : String) (record : Record) : Issue where
  key := record.key
  title := record.title
  noteId? := highestId? (((record.uploads?.getD []).filter (·.name == noteFile)).map (·.id))

/-- The names of the elements that a report is read by. -/
def reservedLabels : List String :=
  [itemLabel, keyLabel, titleLabel, attachmentsLabel]

/-- No element in a node, itself included, has a name that a report is read by. -/
def IsUnrelated (n : Node) : Prop :=
  ∀ m ∈ n.family, ∀ label ∈ reservedLabels, m.isNamed label = false

instance (n : Node) : Decidable (IsUnrelated n) :=
  inferInstanceAs (Decidable (∀ m ∈ n.family, ∀ label ∈ reservedLabels, m.isNamed label = false))

/-- An element with a name, and with nothing in it that has a name that a report is read by. -/
structure IsItemPart (label : String) (n : Node) : Prop where
  name : n.isNamed label
  inner : ∀ m ∈ n.content, IsUnrelated m

/-- An attachment describes an upload. -/
def DescribesUpload (attachment : Node) (upload : Upload) : Prop :=
  attachment.attribute? nameLabel = some upload.name ∧ attachment.attribute? idLabel = some upload.spelling

/-- An element describes some uploads, each by an attachment somewhere in it, in any order. -/
def DescribesUploads (attachments : Node) (uploads : List Upload) : Prop :=
  IsItemPart attachmentsLabel attachments ∧
    ∃ described, described.Perm uploads ∧ Holds attachmentLabel DescribesUpload attachments.content described

/-- What an item that describes a record is made of. -/
structure Record.Parts (record : Record) where
  /-- The element with the key. -/
  key : Node
  /-- The element with the title. -/
  title : Node
  /-- The element with the attachments. -/
  attachments? : Option Node
  /-- The other nodes: elements, comments and text. -/
  others : List Node
  isKey : IsItemPart keyLabel key
  /-- The text directly in it is the key, whatever stands between the runs of text. -/
  keyText : key.directText = record.key
  isTitle : IsItemPart titleLabel title
  /-- The text directly in it is the title after the key in brackets and one blank. -/
  titleText : title.directText = "[" ++ record.key ++ "] " ++ record.title
  /-- Attachments are there if the record has a list of uploads, and describe them. -/
  attachments : Option.Rel DescribesUploads attachments? record.uploads?
  unrelated : ∀ n ∈ others, IsUnrelated n

/-- The content of an item, in one of its orders. -/
def Record.Parts.content (parts : record.Parts) : List Node :=
  parts.key :: parts.title :: (parts.attachments?.toList ++ parts.others)

/-- An item describes a record, with its parts in any order. -/
def DescribesRecord (item : Node) (record : Record) : Prop :=
  ∃ parts : record.Parts, item.content.Perm parts.content

/-- A report is an export of records: it has one item for each of them. No item stands in another, since what stands
in an item has other names. -/
def IsExport (report : Node) (records : List Record) : Prop :=
  Holds itemLabel DescribesRecord report.content records

/-! ### The parts of an item are found by name -/

theorem IsUnrelated.named_eq_nil (h : IsUnrelated n) (hl : label ∈ reservedLabels) : n.named label = [] :=
  List.filter_eq_nil_iff.mpr fun m hm => ne_true_of_eq_false (h m hm label hl)

/-- A part has one name, and what stands in it has none. -/
theorem IsItemPart.named_eq (h : IsItemPart label n) (hl : label' ∈ reservedLabels) :
    n.named label' = if label = label' then [n] else [] := by
  have hinner : (familyOfAll n.content).filter (Node.isNamed label') = [] := by
    rw [List.filter_eq_nil_iff, forall_mem_familyOfAll_iff]
    exact fun m hm k hk => ne_true_of_eq_false (h.inner m hm k hk label' hl)
  have hname : n.isNamed label' ↔ label = label' := by
    have := h.name
    rw [Node.isNamed, beq_iff_eq] at this ⊢
    rw [this, Option.some_inj]
  rw [Node.named, Node.family_eq]
  split_ifs with heq
  · rw [List.filter_cons_of_pos (hname.mpr heq), hinner]
  · rw [List.filter_cons_of_neg (heq ∘ hname.mp), hinner]

namespace Record.Parts

variable {parts : record.Parts}

theorem isItemPart_attachments {attachments : Node} (h : parts.attachments? = some attachments) :
    IsItemPart attachmentsLabel attachments := by
  have hrel := parts.attachments
  rw [h] at hrel
  generalize record.uploads? = uploads? at hrel
  cases hrel with
  | some hdescribes => exact hdescribes.1

theorem named_attachments (parts : record.Parts) (hl : label ∈ reservedLabels) :
    parts.attachments?.toList.flatMap (Node.named label) =
      if attachmentsLabel = label then parts.attachments?.toList else [] := by
  cases ha : parts.attachments? with
  | none => exact (ite_self _).symm
  | some attachments => rw [Option.toList_some, List.flatMap_singleton, (isItemPart_attachments ha).named_eq hl]

/-- The elements with one of the names are the parts that have it. -/
theorem named_content (parts : record.Parts) (hl : label ∈ reservedLabels) :
    parts.content.flatMap (Node.named label) =
      (if keyLabel = label then [parts.key] else []) ++ ((if titleLabel = label then [parts.title] else []) ++
        if attachmentsLabel = label then parts.attachments?.toList else []) := by
  have hothers : parts.others.flatMap (Node.named label) = [] :=
    List.flatMap_eq_nil_iff.mpr fun n hn => (parts.unrelated n hn).named_eq_nil hl
  rw [content, List.flatMap_cons, List.flatMap_cons, List.flatMap_append, hothers, List.append_nil,
    parts.isKey.named_eq hl, parts.isTitle.named_eq hl, parts.named_attachments hl]

/-- Whatever the order of the parts, the one that alone has a name is found by it, if there is one. -/
theorem descendants_eq {n? : Option Node} (h : item.content.Perm parts.content)
    (hn : parts.content.flatMap (Node.named label) = n?.toList) : item.descendants label = n?.toList := by
  have hperm : (item.descendants label).Perm n?.toList := by
    rw [Node.descendants_eq_flatMap, ← hn]
    exact h.flatMap_right _
  cases n? with
  | none => exact hperm.eq_nil
  | some n => exact List.perm_singleton.mp hperm

theorem descendant?_eq {n? : Option Node} (h : item.content.Perm parts.content)
    (hn : parts.content.flatMap (Node.named label) = n?.toList) : item.descendant? label = n? := by
  rw [Node.descendant?_eq_head?, descendants_eq h hn]
  cases n? <;> rfl

theorem descendant?_key (h : item.content.Perm parts.content) : item.descendant? keyLabel = some parts.key :=
  descendant?_eq h (parts.named_content (by decide))

theorem descendant?_title (h : item.content.Perm parts.content) : item.descendant? titleLabel = some parts.title :=
  descendant?_eq h (parts.named_content (by decide))

theorem descendant?_attachments (h : item.content.Perm parts.content) :
    item.descendant? attachmentsLabel = parts.attachments? :=
  descendant?_eq h (parts.named_content (by decide))

end Record.Parts

/-! ### The key in brackets is taken off the title -/

theorem stripTitle_bracketed {key : String} (h : ']' ∉ key.toList) (title : String) :
    stripTitle ("[" ++ key ++ "] " ++ title) = .ok title := by
  have hbefore : ∀ c ∈ '[' :: key.toList, (c != ']') = true := by
    intro c hc
    rw [bne_iff_ne]
    rcases List.mem_cons.mp hc with rfl | hc
    · decide
    · rintro rfl
      exact h hc
  have hsplit : ("[" ++ key ++ "] " ++ title).toList = ('[' :: key.toList) ++ (']' :: ' ' :: title.toList) := by
    simp
  rw [stripTitle, hsplit, List.dropWhile_append_of_pos hbefore]
  exact congrArg Except.ok String.ofList_toList

/-! ### The latest of the uploads -/

theorem attachedId?_of_describes {attachment : Node} {upload : Upload} (h : DescribesUpload attachment upload) :
    attachedId? attachment = some upload.id := by
  rw [attachedId?, writtenId, h.2]
  exact readAttachmentId_eq_ok_iff_attachmentId?.mp upload.reads

theorem filterMap_eq_map_of_forall₂ {α β γ : Type} {f : α → Option γ} {g : β → γ} {l : List α} {k : List β}
    (h : List.Forall₂ (fun a b => f a = some (g b)) l k) : l.filterMap f = k.map g := by
  induction h with
  | nil => rfl
  | cons ha _ ih => rw [List.filterMap_cons_some ha, ih, List.map_cons]

/-- The attachments with the name of notes describe the uploads with that name, in some order. -/
theorem exists_forall₂_noteAttachments (noteFile : String) (h : DescribesRecord item record) :
    ∃ described, described.Perm ((record.uploads?.getD []).filter (·.name == noteFile)) ∧
      List.Forall₂ DescribesUpload (noteAttachments noteFile item) described := by
  obtain ⟨parts, hperm⟩ := h
  have hrel := parts.attachments
  rw [noteAttachments, Record.Parts.descendant?_attachments hperm]
  generalize parts.attachments? = attachments?, record.uploads? = uploads? at hrel
  cases hrel with
  | none => exact ⟨[], .refl _, .nil⟩
  | some hattachments =>
    obtain ⟨-, described, hdescribed, hholds⟩ := hattachments
    refine ⟨described.filter (·.name == noteFile), hdescribed.filter _, List.rel_filter ?_ hholds.forall₂⟩
    intro attachment upload ha
    change isNote noteFile attachment ↔ upload.name == noteFile
    rw [isNote, ha.1, Option.some_beq_some]

theorem latestNoteId?_of_describes (noteFile : String) (h : DescribesRecord item record) :
    latestNoteId? item noteFile = .ok (record.issue noteFile).noteId? := by
  obtain ⟨described, hperm, hdescribed⟩ := exists_forall₂_noteAttachments noteFile h
  have hids : List.Forall₂ (fun attachment upload => attachedId? attachment = some upload.id)
      (noteAttachments noteFile item) described := hdescribed.imp fun _ _ => attachedId?_of_describes
  have hall : NotesHaveIds noteFile item := by
    refine ((List.forall₂_and_left _ _).mp (hids.imp fun attachment upload hid => ⟨?_, hid⟩)).1
    exact ⟨upload.id, attachedId?_eq_some_iff.mp hid⟩
  rw [latestNoteId?_eq_ok hall, filterMap_eq_map_of_forall₂ hids, highestId?_of_perm (hperm.map _)]
  rfl

/-! ### Items and reports -/

/-- An item that describes a record is read as its issue. -/
theorem ofItem_of_describes (noteFile : String) (h : DescribesRecord item record) :
    Issue.ofItem item noteFile = .ok (record.issue noteFile) := by
  have hnote := latestNoteId?_of_describes noteFile h
  obtain ⟨parts, hperm⟩ := h
  have hkey : item.require keyLabel = .ok parts.key := by
    rw [Node.require, Record.Parts.descendant?_key hperm]
  have htitle : item.require titleLabel = .ok parts.title := by
    rw [Node.require, Record.Parts.descendant?_title hperm]
  rw [Issue.ofItem, hkey, ok_bind, htitle, ok_bind, parts.titleText, stripTitle_bracketed record.unbracketed, ok_bind,
    hnote, ok_bind, parts.keyText]
  rfl

theorem issues_of_isExport {report : Node} {records : List Record} (noteFile : String)
    (h : IsExport report records) : issues report noteFile = .ok (records.map (·.issue noteFile)) :=
  mapM_eq_ok_iff_forall₂.mpr (List.forall₂_map_right_iff.mpr
    (h.forall₂.imp fun _ _ => ofItem_of_describes noteFile))

/-- **Reading a report gives back what was exported**: one issue for each record, in order. If one record is another,
only the issue at its place is. -/
theorem export_read_back (report : Node) (records : List Record) (noteFile : String) (h : IsExport report records) :
    issues report noteFile = .ok (records.map (·.issue noteFile)) ∧
    ∀ report' i record, IsExport report' (records.set i record) →
      issues report' noteFile = .ok ((records.map (·.issue noteFile)).set i (record.issue noteFile)) := by
  refine ⟨issues_of_isExport noteFile h, fun report' i record h' => ?_⟩
  rw [issues_of_isExport noteFile h', List.map_set]

/-! ### A report of two issues -/

/-- A record with uploads. -/
def crowdedRecord : Record where
  key := "A-1"
  title := " [draft]\nfirst"
  uploads? := some [⟨"picture", "-3", -3, by decide +kernel⟩, ⟨"note", "7", 7, by decide +kernel⟩,
    ⟨"note", "0x1F", 31, by decide +kernel⟩]
  unbracketed := by decide

/-- What an item for it may be made of: its texts have comments in them, its attachments have another order and one of
them is in a folder, and there is an attachment in another place. -/
def crowdedParts : crowdedRecord.Parts where
  key := .element (.plain keyLabel []) [.text "A-", .comment "number", .text "1"]
  title := .element (.plain titleLabel []) [.text "[A-1", .comment "key", .text "]  [draft]\nfirst"]
  attachments? := some (.element (.plain attachmentsLabel []) [upload "note" "0x1F", .text " ",
    .element (.plain "folder" []) [upload "note" "7"], upload "picture" "-3"])
  others := [.text "\n", .element (.plain "more" []) [upload "note" "100"]]
  isKey := ⟨rfl, by decide +kernel⟩
  keyText := by decide +kernel
  isTitle := ⟨rfl, by decide +kernel⟩
  titleText := by decide +kernel
  attachments := .some ⟨⟨rfl, by decide +kernel⟩, _, List.reverse_perm _,
    holds_iff.mpr (.cons ⟨rfl, rfl⟩ (.cons ⟨rfl, rfl⟩ (.cons ⟨rfl, rfl⟩ .nil)))⟩
  unrelated := by decide +kernel

/-- A record without uploads. -/
def bareRecord (key title : String) (h : ']' ∉ key.toList) : Record :=
  ⟨key, title, none, h⟩

theorem directText_withText (label s : String) : (Node.withText label s).directText = s :=
  String.empty_append

theorem isItemPart_withText (label s : String) : IsItemPart label (.withText label s) where
  name := beq_self_eq_true _
  inner := List.forall_mem_singleton.mpr (List.forall_mem_singleton.mpr fun _ _ => rfl)

/-- What an item for it may be made of: a key and a title. -/
def bareParts (key title : String) (h : ']' ∉ key.toList) : (bareRecord key title h).Parts where
  key := .withText keyLabel key
  title := .withText titleLabel ("[" ++ key ++ "] " ++ title)
  attachments? := none
  others := []
  isKey := isItemPart_withText _ _
  keyText := directText_withText _ _
  isTitle := isItemPart_withText _ _
  titleText := directText_withText _ _
  attachments := .none
  unrelated := nofun

/-- A report with a title of its own, an item with many parts and, further inside, an item with few. -/
def reportWith (key title : String) (h : ']' ∉ key.toList) : Node :=
  .element (.plain "rss" []) [.element (.plain "channel" []) [
    .withText titleLabel "Fixed issues",
    .element (.plain itemLabel []) crowdedParts.content.reverse,
    .element (.plain "older" []) [.text "\n", .element (.plain itemLabel []) (bareParts key title h).content]]]

theorem isExport_reportWith (key title : String) (h : ']' ∉ key.toList) :
    IsExport (reportWith key title h) [crowdedRecord, bareRecord key title h] :=
  holds_iff.mpr (.cons ⟨crowdedParts, List.reverse_perm _⟩ (.cons ⟨bareParts key title h, .refl _⟩ .nil))

/-- The report is read, and read again when the second record is another. -/
theorem export_of_two_read_back :
    issues (reportWith "A-2" "] second" (by decide)) "note" =
      .ok [⟨"A-1", " [draft]\nfirst", some 31⟩, ⟨"A-2", "] second", none⟩] ∧
    issues (reportWith "B-3" "third" (by decide)) "note" =
      .ok [⟨"A-1", " [draft]\nfirst", some 31⟩, ⟨"B-3", "third", none⟩] := by
  obtain ⟨hread, hother⟩ := export_read_back _ _ "note" (isExport_reportWith "A-2" "] second" (by decide))
  refine ⟨hread.trans (by decide +kernel), ?_⟩
  exact (hother _ 1 (bareRecord "B-3" "third" (by decide)) (isExport_reportWith _ _ _)).trans (by decide +kernel)

end Tracker

end ReleaseNotes
