import MarkupJsx.Proofs.Conversion.Effects

/-!
# What a step that succeeds gives

The outcome of an additive step is known everywhere as soon as it is known on states with empty
logs.  `Ensures start step Q` says of such a state, with the namespace, the fashions and the depth
of `start`: if the step succeeds, then `Q` holds of its value, of the comments that it logs, and of
the statements that it logs.  Nothing is said about a step that fails.

Each way of putting steps together has a rule: `Ensures.bind` for one after the other, with the logs
of both put one behind the other, `Ensures.within` for another namespace, `Ensures.deeper` for
another level.  The steps in the middle have to be additive, so that what follows them finds the
namespace and the depth that they found.
-/

namespace MarkupJsx
namespace Conversion

variable {α β : Type} {start : State}

/-- If a step succeeds on a state without logs, then something holds of its value and of what it
logs. -/
def Ensures (start : State) (step : Conversion α)
    (Q : α → List Comment → List Jsx.Statement → Prop) : Prop :=
  ∀ value after, step.run start.cleared = (.ok value, after) →
    Q value after.comments after.statements

namespace Ensures

variable {step : Conversion α} {P Q : α → List Comment → List Jsx.Statement → Prop}

theorem imp (h : Ensures start step P)
    (hPQ : ∀ value comments statements, P value comments statements →
      Q value comments statements) : Ensures start step Q := by
  intro value after hrun
  exact hPQ _ _ _ (h value after hrun)

/-- Nothing is asked of any step. -/
theorem trivial (step : Conversion α) : Ensures start step fun _ _ _ => True :=
  fun _ _ _ => True.intro

theorem pure {value : α} (h : Q value [] []) : Ensures start (pure value) Q := by
  intro result after hrun
  obtain ⟨hvalue, rfl⟩ := Prod.mk.inj hrun
  rw [← Except.ok.inj hvalue]
  exact h

/-- Nothing has to hold of a step that fails. -/
theorem fail (error : ConversionError) : Ensures start (fail error : Conversion α) Q := by
  intro value after hrun
  exact nomatch (Prod.mk.inj hrun).1

theorem ofExcept (result : Except ConversionError α) :
    Ensures start (ofExcept result) fun value _ _ => result = .ok value := by
  intro value after hrun
  exact (Prod.mk.inj hrun).1

/-- **One after the other.**  The second step is judged from the same start, since the first one has
left everything but the logs as it was. -/
theorem bind {next : α → Conversion β} {Q : β → List Comment → List Jsx.Statement → Prop}
    (hstep : Additive step) (hnext : ∀ value, Additive (next value)) (h : Ensures start step P)
    (hq : ∀ value comments statements, P value comments statements →
      Ensures start (next value) fun result moreComments moreStatements =>
        Q result (comments ++ moreComments) (statements ++ moreStatements)) :
    Ensures start (step >>= next) Q := by
  intro result last hrun
  rw [run_bind] at hrun
  have hcleared := hstep.cleared_after start.cleared
  rcases hfirst : step.run start.cleared with ⟨outcome, after⟩
  rw [hfirst] at hrun hcleared
  cases outcome with
  | error error => exact nomatch (Prod.mk.inj hrun).1
  | ok value =>
    have hrun : (next value).run after = (.ok result, last) := hrun
    have hcleared : after.cleared = start.cleared := hcleared
    rw [hnext value after, hcleared] at hrun
    obtain ⟨hresult, rfl⟩ := Prod.mk.inj hrun
    refine hq value _ _ (h value after hfirst) result _ ?_
    exact Prod.ext hresult rfl

/-- A step that is put behind a question is judged with the answer. -/
theorem space_bind {next : Namespace → Conversion α} (h : Ensures start (next start.space) Q) :
    Ensures start (space >>= next) Q :=
  h

theorem spelling_bind {next : Spelling → Conversion α}
    (h : Ensures start (next start.spelling) Q) : Ensures start (spelling >>= next) Q :=
  h

theorem depth_bind {next : Nat → Conversion α} (h : Ensures start (next start.depth) Q) :
    Ensures start (depth >>= next) Q :=
  h

theorem within {space : Namespace} (h : Ensures { start with space } step Q) :
    Ensures start (within space step) Q := by
  intro value after hrun
  obtain ⟨hvalue, rfl⟩ := Prod.mk.inj hrun
  exact h value (step.run { start.cleared with space }).2 (Prod.ext hvalue rfl)

theorem deeper (h : Ensures { start with depth := start.depth + 1 } step Q) :
    Ensures start (deeper step) Q := by
  intro value after hrun
  obtain ⟨hvalue, rfl⟩ := Prod.mk.inj hrun
  exact h value (step.run { start.cleared with depth := start.depth + 1 }).2
    (Prod.ext hvalue rfl)

end Ensures
end Conversion
end MarkupJsx
