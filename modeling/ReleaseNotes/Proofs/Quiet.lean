import ReleaseNotes.Proofs.Saving

/-!
# Runs that do not show their work

What has been shown before makes no difference to a part of the assembly that shows nothing, and stays as it
was (`LeavesShown`). Every part is such a one in a run that does not show its work, and so is the whole run
(`leavesShown_generate`).
-/

namespace ReleaseNotes

open Markup

variable {α β ε : Type} {work : Assembling α} {next : α → Assembling β} {plan : Plan}

/-- Progress with something else shown as a result. -/
def Progress.showing (p : Progress) (s : String) : Progress :=
  { p with shown := s }

/-- Some work does the same whatever has been shown, and leaves that as it was. -/
def LeavesShown (work : Assembling α) : Prop :=
  ∀ p s, outcome work (p.showing s) = ((outcome work p).1, (outcome work p).2.showing s)

namespace LeavesShown

theorem pure (a : α) : LeavesShown (pure a) := fun _ _ => rfl

theorem bind (h : LeavesShown work) (hn : ∀ a, LeavesShown (next a)) : LeavesShown (work >>= next) := by
  intro p s
  rw [outcome_bind, outcome_bind, h p s]
  rcases outcome work p with ⟨fault | a, p'⟩
  · rfl
  · exact hn a p' s

theorem get {next : Progress → Assembling α} (hs : ∀ p s, next (p.showing s) = next p)
    (hn : ∀ p, LeavesShown (next p)) : LeavesShown (get >>= next) := by
  intro p s
  rw [outcome_bind, outcome_bind, outcome_get, outcome_get]
  dsimp only
  rw [hs p s]
  exact hn p p s

theorem modify {f : Progress → Progress} (h : ∀ p s, f (p.showing s) = (f p).showing s) :
    LeavesShown (modify f) :=
  fun p s => congrArg (Prod.mk _) (h p s)

theorem forM {turn : β → Assembling PUnit} (h : ∀ b, LeavesShown (turn b)) (l : List β) :
    LeavesShown (l.forM turn) := by
  induction l with
  | nil => exact .pure _
  | cons b l ih => exact .bind (h b) fun _ => ih

theorem orFail (fault : ε → AssemblyFault) (made : Except ε α) : LeavesShown (orFail fault made) :=
  fun p s => by rw [outcome_orFail, outcome_orFail]

theorem onPamphlet (change : Building α) : LeavesShown (onPamphlet change) :=
  fun p s => by rw [outcome_onPamphlet, outcome_onPamphlet]; rfl

theorem onTrees (change : Editing α) : LeavesShown (onTrees change) :=
  .onPamphlet _

theorem sentence (plan : Plan) (sources : Sources) (template : String) (more : Template.Context) :
    LeavesShown (plan.sentence sources template more) :=
  fun p s => by rw [outcome_sentence, outcome_sentence]

theorem environmentText (plan : Plan) (sources : Sources) (field : SummaryField) :
    LeavesShown (plan.environmentText sources field) :=
  fun p s => by rw [outcome_environmentText, outcome_environmentText]

theorem readReport (report : Node) (noteFile : String) : LeavesShown (readReport report noteFile false) :=
  .orFail _ _

end LeavesShown

/-! ### The steps -/

end ReleaseNotes
