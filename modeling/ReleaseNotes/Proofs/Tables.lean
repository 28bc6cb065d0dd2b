import ReleaseNotes.Data.Check

/-!
# Tables and what is wrong with them

What stands under a name in a table stays there when something is put under another name (`get?_put_of_ne`). A table is
checked field by field. There is a value just if there is one for every field (`Checked.both_eq_ok_iff`), and what is
complained about is what is complained about in one field after another (`Checked.found_both`). A check without a value
complains about something, and only about the fields that it reads (`Checked.About`).
-/

namespace ReleaseNotes.Data

variable {α β : Type} {f : Checked (α → β)} {x : Checked α} {a : α} {b : β} {d : α} {name : String}
  {read : Value → Except Trouble α} {readPart : Table → Checked α} {t t' : Table} {P : List String → Prop}

/-! ### What stands under a name -/

theorem get?_cons (e : String × Value) (t : Table) (name : String) :
    Table.get? (e :: t) name = if e.1 = name then some e.2 else t.get? name := by
  unfold Table.get?
  rw [List.find?_cons]
  by_cases h : e.1 = name
  · simp [h]
  · simp [beq_eq_false_iff_ne.mpr h, h]

theorem get?_put_self (name : String) (v : Value) (t : Table) : (Table.put name v t).get? name = some v := by
  induction t with
  | nil => rw [Table.put, get?_cons, if_pos rfl]
  | cons e t ih =>
    rw [Table.put]
    by_cases he : e.1 = name
    · rw [if_pos (by simpa using he), get?_cons, if_pos rfl]
    · rw [if_neg (by simpa using he), get?_cons, if_neg he, ih]

theorem get?_put_of_ne {name other : String} (h : other ≠ name) (v : Value) (t : Table) :
    (Table.put name v t).get? other = t.get? other := by
  induction t with
  | nil => rw [Table.put, get?_cons, if_neg h.symm]
  | cons e t ih =>
    rw [Table.put]
    by_cases he : e.1 = name
    · rw [if_pos (by simpa using he), get?_cons, get?_cons, if_neg h.symm, if_neg (he ▸ h.symm)]
    · rw [if_neg (by simpa using he), get?_cons, get?_cons, ih]

/-! ### What is complained about -/

namespace Checked

/-- All that is complained about. -/
def found : Checked α → List Complaint
  | .ok _ => []
  | .error complaints => complaints

@[simp] theorem found_pure (a : α) : found (pure a) = [] := rfl

@[simp] theorem found_both (f : Checked (α → β)) (x : Checked α) : found (both f x) = found f ++ found x := by
  cases f <;> cases x <;> simp [both, found]

@[simp] theorem found_inside (name : String) (x : Checked α) :
    found (inside name x) = (found x).map fun c => ⟨name :: c.path, c.trouble⟩ := by
  cases x <;> rfl

theorem both_eq_ok_iff : both f x = .ok b ↔ ∃ g a, f = .ok g ∧ x = .ok a ∧ g a = b := by
  cases f <;> cases x <;> simp [both]

theorem inside_eq_ok_iff : inside name x = .ok a ↔ x = .ok a := by
  cases x <;> simp [inside]

/-- If there is no value, something is complained about, and all of it at such paths. -/
def About (P : List String → Prop) (x : Checked α) : Prop :=
  ∀ complaints, x = .error complaints → complaints ≠ [] ∧ ∀ c ∈ complaints, P c.path

@[simp] theorem about_ok (a : α) : About P (.ok a) := nofun

@[simp] theorem about_pure (a : α) : About P (pure a) := nofun

theorem About.both (hf : About P f) (hx : About P x) : About P (both f x) := by
  intro complaints h
  cases f with
  | ok g =>
    cases x with
    | ok a => cases h
    | error more =>
      cases h
      exact hx _ rfl
  | error complaints =>
    obtain ⟨hn, hc⟩ := hf _ rfl
    cases x with
    | ok a =>
      cases h
      exact ⟨hn, hc⟩
    | error more =>
      cases h
      exact ⟨List.append_ne_nil_of_left_ne_nil hn _, List.forall_mem_append.mpr ⟨hc, (hx _ rfl).2⟩⟩

theorem about_at (x : Except Trouble α) (h : P [name]) : About P (.at name x) := by
  rintro _ hx
  cases x <;> cases hx
  simpa using h

theorem About.inside (h : About (fun path => P (name :: path)) x) : About P (inside name x) := by
  rintro _ hx
  cases x <;> cases hx
  simpa [List.forall_mem_map] using h _ rfl

theorem About.mono {Q : List String → Prop} (h : About P x) (hq : ∀ path, P path → Q path) : About Q x :=
  fun complaints hx => ⟨(h complaints hx).1, fun c hc => hq _ ((h complaints hx).2 c hc)⟩

theorem About.of_mem_found (h : About P x) {c : Complaint} (hc : c ∈ found x) : P c.path := by
  cases x with
  | ok a => cases hc
  | error complaints => exact (h _ rfl).2 c hc

/-- If nothing is complained about, there is a value. -/
theorem About.exists_eq_ok (h : About P x) (hn : found x = []) : ∃ a, x = .ok a := by
  cases x with
  | ok a => exact ⟨a, rfl⟩
  | error complaints => exact absurd hn (h _ rfl).1

end Checked

/-! ### Fields and parts -/

theorem about_defaulted (d : α) (h : P [name]) : Checked.About P (t.defaulted name d read) :=
  Checked.about_at _ h

/-- A check of one more field. -/
theorem Checked.About.field {f : Checked (α → β)} (hf : Checked.About P f) (h : P [name]) :
    Checked.About P (Checked.both f (t.defaulted name d read)) :=
  hf.both (about_defaulted d h)

/-- What is wrong with a part of a table is about the part, which may be no table, or about what stands in it. -/
theorem about_part (hp : P [name]) (h : ∀ entries, Checked.About (fun path => P (name :: path)) (readPart entries)) :
    Checked.About P (t.part name readPart) := by
  refine Checked.About.inside ?_
  split
  · exact h []
  · exact h _
  · rintro _ ⟨⟩
    simpa using hp

theorem defaulted_congr (h : t.get? name = t'.get? name) : t.defaulted name d read = t'.defaulted name d read := by
  rw [Table.defaulted, Table.defaulted, h]

theorem part_congr (h : t.get? name = t'.get? name) : t.part name readPart = t'.part name readPart := by
  rw [Table.part, Table.part, h]

theorem defaulted_unique {a a' : α} (h : t.get? name = t'.get? name) (ha : t.defaulted name d read = .ok a)
    (ha' : t'.defaulted name d read = .ok a') : a = a' :=
  Except.ok.inj (ha.symm.trans ((defaulted_congr h).trans ha'))

theorem part_unique {a a' : α} (h : t.get? name = t'.get? name) (ha : t.part name readPart = .ok a)
    (ha' : t'.part name readPart = .ok a') : a = a' :=
  Except.ok.inj (ha.symm.trans ((part_congr h).trans ha'))

end ReleaseNotes.Data
