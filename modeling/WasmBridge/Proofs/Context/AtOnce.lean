import WasmBridge.Proofs.Context.Interference

/-!
# Ends without waiting

Most of what a context does ends where it is told to, whatever others do: it does not
wait.  Such an activity may be taken out of the front of any other.
-/

namespace WasmBridge.Activity

variable {α β δ ε : Type} {others : Shared → Shared → Prop} {before middle after last : Moment}
  {activity : Activity α} {next : α → Activity β} {value answer : α}

/-- An activity that begins at a moment ends at another with an answer, and does not
wait. -/
def EndsAtOnce (activity : Activity α) (before : Moment) (answer : α) (after : Moment) : Prop :=
  activity before.1 before.2 = .done after.2 (answer, after.1)

namespace EndsAtOnce

theorem endsAmid_iff (ends : activity.EndsAtOnce before value last) :
    activity.EndsAmid others before answer after ↔ answer = value ∧ after = last :=
  endsAmid_of_done ends

theorem endsAmid (ends : activity.EndsAtOnce before answer after) :
    activity.EndsAmid others before answer after :=
  ends.endsAmid_iff.mpr ⟨rfl, rfl⟩

theorem unique (ends : activity.EndsAtOnce before value last)
    (also : activity.EndsAtOnce before answer after) : answer = value ∧ after = last := by
  have amid : activity.EndsAmid Eq before answer after := also.endsAmid
  exact ends.endsAmid_iff.mp amid

theorem bind_eq (first : activity.EndsAtOnce before value middle) :
    (activity >>= next) before.1 before.2 = next value middle.1 middle.2 := by
  change Thread.andThen _ (activity before.1 before.2) = _
  rw [first]
  rfl

theorem bind {result : β} (first : activity.EndsAtOnce before value middle)
    (rest : (next value).EndsAtOnce middle result after) :
    (activity >>= next).EndsAtOnce before result after :=
  first.bind_eq.trans rest

theorem endsAmid_bind_iff {result : β} (first : activity.EndsAtOnce before value middle) :
    (activity >>= next).EndsAmid others before result after ↔
      (next value).EndsAmid others middle result after := by
  unfold EndsAmid
  rw [first.bind_eq]

/-! ## Attempts -/

variable {attempt : ExceptT ε Activity α} {rest : α → ExceptT ε Activity β}

theorem run_pure (value : α) : EndsAtOnce (pure value : ExceptT ε Activity α).run before
    (.ok value) before :=
  rfl

theorem of_except (result : Except ε α) :
    EndsAtOnce (ExceptT.mk (pure result) : ExceptT ε Activity α).run before result before :=
  rfl

theorem of_throw (error : ε) :
    EndsAtOnce (throw error : ExceptT ε Activity α).run before (.error error) before :=
  rfl

theorem run_bind_eq (first : attempt.run.EndsAtOnce before (.ok value) middle) :
    (attempt >>= rest).run before.1 before.2 = (rest value).run middle.1 middle.2 :=
  bind_eq first

theorem run_bind {result : Except ε β} (first : attempt.run.EndsAtOnce before (.ok value) middle)
    (late : (rest value).run.EndsAtOnce middle result after) :
    (attempt >>= rest).run.EndsAtOnce before result after :=
  (run_bind_eq first).trans late

theorem run_bind_error {error : ε} (first : attempt.run.EndsAtOnce before (.error error) after) :
    (attempt >>= rest).run.EndsAtOnce before (.error error) after :=
  bind_eq first

theorem run_lift (ends : activity.EndsAtOnce before answer after) :
    EndsAtOnce (liftM activity : ExceptT ε Activity α).run before (.ok answer) after := by
  change EndsAtOnce (activity >>= fun value => pure (Except.ok value)) before _ after
  exact ends.bind rfl

theorem run_adapt {change : ε → δ} {result : Except ε α}
    (ends : attempt.run.EndsAtOnce before result after) :
    (attempt.adapt change).run.EndsAtOnce before (result.mapError change) after := by
  change EndsAtOnce (attempt.run >>= fun result => pure (result.mapError change)) before _ after
  exact ends.bind rfl

theorem run_endsAmid_bind_iff {result : Except ε β}
    (first : attempt.run.EndsAtOnce before (.ok value) middle) :
    (attempt >>= rest).run.EndsAmid others before result after ↔
      (rest value).run.EndsAmid others middle result after := by
  unfold EndsAmid
  rw [run_bind_eq first]

end EndsAtOnce

/-! ## What is known of an end -/

/-- An attempt settles at a moment when it ends without waiting, with a result and at a
moment of which something is known. -/
def Settles (attempt : ExceptT ε Activity α) (before : Moment)
    (known : Except ε α → Moment → Prop) : Prop :=
  ∃ result after, attempt.run.EndsAtOnce before result after ∧ known result after

namespace Settles

variable {attempt : ExceptT ε Activity α} {rest : α → ExceptT ε Activity β}
  {known : Except ε β → Moment → Prop}

theorem mono {weaker : Except ε α → Moment → Prop} {known : Except ε α → Moment → Prop}
    (settles : Settles attempt before known)
    (implies : ∀ result after, known result after → weaker result after) :
    Settles attempt before weaker := by
  obtain ⟨result, after, ends, holds⟩ := settles
  exact ⟨result, after, ends, implies result after holds⟩

/-- An attempt of which the result and the end are known ends so. -/
theorem endsAtOnce {result : Except ε α}
    (settles : Settles attempt before fun outcome last => outcome = result ∧ last = after) :
    attempt.run.EndsAtOnce before result after := by
  obtain ⟨_, _, ends, rfl, rfl⟩ := settles
  exact ends

theorem of_throw {error : ε} (holds : known (.error error) before) :
    Settles (throw error) before known :=
  ⟨_, before, .of_throw error, holds⟩

/-- What follows an attempt settles where the attempt answered. -/
theorem bind
    (first : Settles attempt before fun result after =>
      match result with
      | .ok value => Settles (rest value) after known
      | .error error => known (.error error) after) :
    Settles (attempt >>= rest) before known := by
  obtain ⟨result, middle, ends, holds⟩ := first
  cases result with
  | error error => exact ⟨_, middle, .run_bind_error ends, holds⟩
  | ok value =>
      obtain ⟨last, after, late, holds⟩ := holds
      exact ⟨last, after, .run_bind ends late, holds⟩

/-- What follows an inspection settles at the same moment. -/
theorem bind_of_inspection {result : Except ε α}
    (ends : attempt.run.EndsAtOnce before result before)
    (answers : ∀ value, result = .ok value → Settles (rest value) before known)
    (fails : ∀ error, result = .error error → known (.error error) before) :
    Settles (attempt >>= rest) before known := by
  refine bind ⟨result, before, ends, ?_⟩
  cases result with
  | ok value => exact answers value rfl
  | error error => exact fails error rfl

theorem adapt {change : δ → ε} {attempt : ExceptT δ Activity β}
    (settles : Settles attempt before fun result after => known (result.mapError change) after) :
    Settles (attempt.adapt change) before known := by
  obtain ⟨result, after, ends, holds⟩ := settles
  exact ⟨_, after, .run_adapt ends, holds⟩

end Settles

end WasmBridge.Activity
