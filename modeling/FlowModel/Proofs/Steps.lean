import FlowModel.Failure
import Mathlib.Data.List.Forall2

/-!
# How steps end

A step works on a state and may fail, and what it has done until then stays done. It ends
within two conditions when the first holds of its value and the state after it, or the second
of its failure and the state it leaves. The conditions of a sequence or a loop are put
together from those of its steps (`Ends.andThen`, `Ends.each`). A loop whose steps have effects is a
chain of them (`Ends.chain`), and what every effect does to a state the chain does in the end
(`Chain.reaches`, `Chain.record`).
-/

namespace FlowModel

/-- What holds when a step is done, or when it has failed. -/
def Ends {σ α : Type} (step : EStateM Failure σ α) (state : σ) (done : α → σ → Prop)
    (failed : Failure → σ → Prop) : Prop :=
  match step.run state with
  | .ok value after => done value after
  | .error failure after => failed failure after

/-- No failure is possible. -/
def Never {σ : Type} (_ : Failure) (_ : σ) : Prop := False

/-- A way from one state to another with one effect for each member of a list. -/
inductive Chain {σ α : Type} (effect : α → σ → σ → Prop) : List α → σ → σ → Prop where
  | nil (state : σ) : Chain effect [] state state
  | cons {member : α} {later : List α} {before middle after : σ}
    (first : effect member before middle) (rest : Chain effect later middle after) :
    Chain effect (member :: later) before after

/-- A chain over changed members is one whose effects make the change first. -/
theorem Chain.map {σ α β : Type} {effect : β → σ → σ → Prop} {change : α → β} {members : List α}
    {before after : σ} (chain : Chain (fun member => effect (change member)) members before after) :
    Chain effect (members.map change) before after := by
  induction chain with
  | nil state => exact .nil state
  | cons first _ inductionHypothesis => exact .cons first inductionHypothesis

/-- Conversely a chain over a list that was made by a change runs over the members it was made from.
-/
theorem Chain.of_map {σ α β : Type} {effect : β → σ → σ → Prop} {change : α → β}
    {members : List α} {before after : σ} (chain : Chain effect (members.map change) before after) :
    Chain (fun member => effect (change member)) members before after := by
  induction members generalizing before with
  | nil =>
    cases chain
    exact .nil _
  | cons member later inductionHypothesis =>
    cases chain with
    | cons first rest => exact .cons first (inductionHypothesis rest)

/-- What every effect keeps holds at the end if it holds at the start. What each effect reaches for
its member is reached at the end, if the later effects keep it. -/
theorem Chain.reaches {σ α : Type} {effect : α → σ → σ → Prop} {invariant : σ → Prop}
    {reached : α → σ → Prop} {members : List α} {before after : σ}
    (chain : Chain effect members before after)
    (steps : ∀ member ∈ members, ∀ earlier later, effect member earlier later →
      invariant earlier → invariant later ∧ reached member later ∧
        ∀ other, reached other earlier → reached other later)
    (starts : invariant before) :
    invariant after ∧ (∀ member ∈ members, reached member after) ∧
      ∀ other, reached other before → reached other after := by
  induction chain with
  | nil state => exact ⟨starts, nofun, fun _ holds => holds⟩
  | @cons member later before middle _ first _ inductionHypothesis =>
    obtain ⟨goesOn, reachedFirst, kept⟩ := steps member List.mem_cons_self before middle first starts
    obtain ⟨holds, reachedLater, stays⟩ :=
      inductionHypothesis (fun other inside => steps other (List.mem_cons_of_mem _ inside)) goesOn
    refine ⟨holds, fun other inside => ?_, fun other was => stays other (kept other was)⟩
    rcases List.mem_cons.mp inside with rfl | inLater
    · exact stays other reachedFirst
    · exact reachedLater other inLater

/-- When each effect is recorded, what holds of the records and the state at the start holds at the
end with one further record for each member. -/
theorem Chain.record {σ α β : Type} {effect : α → σ → σ → Prop} {gives : α → β → Prop}
    {holds : List β → σ → Prop} {members : List α} {records : List β} {before after : σ}
    (chain : Chain effect members before after)
    (steps : ∀ member ∈ members, ∀ records earlier later, effect member earlier later →
      holds records earlier → ∃ record, gives member record ∧ holds (records ++ [record]) later)
    (starts : holds records before) :
    ∃ further, List.Forall₂ gives members further ∧ holds (records ++ further) after := by
  induction chain generalizing records with
  | nil state => exact ⟨[], .nil, (List.append_nil records).symm ▸ starts⟩
  | @cons member later before middle _ first _ inductionHypothesis =>
    obtain ⟨record, given, goesOn⟩ :=
      steps member List.mem_cons_self records before middle first starts
    obtain ⟨further, givenLater, ends⟩ :=
      inductionHypothesis (fun other inside => steps other (List.mem_cons_of_mem _ inside)) goesOn
    refine ⟨record :: further, .cons given givenLater, ?_⟩
    rwa [List.append_assoc] at ends

/-- When some effects are recorded and the others need no record, what holds of the records and the
state at the start holds at the end, with further records for some of the members in their order. -/
theorem Chain.recordSome {σ α β : Type} {effect : α → σ → σ → Prop} (origin : β → α)
    {holds : List β → σ → Prop} {members : List α} {records : List β} {before after : σ}
    (chain : Chain effect members before after)
    (steps : ∀ member ∈ members, ∀ records earlier later, effect member earlier later →
      holds records earlier →
        holds records later ∨ ∃ record, origin record = member ∧ holds (records ++ [record]) later)
    (starts : holds records before) :
    ∃ further, (further.map origin).Sublist members ∧ holds (records ++ further) after := by
  induction chain generalizing records with
  | nil state => exact ⟨[], List.Sublist.slnil, (List.append_nil records).symm ▸ starts⟩
  | @cons member later before middle _ first _ inductionHypothesis =>
    have laterSteps := fun other inside => steps other (List.mem_cons_of_mem _ inside)
    rcases steps member List.mem_cons_self records before middle first starts with
      unrecorded | ⟨record, rfl, goesOn⟩
    · obtain ⟨further, some?, ends⟩ := inductionHypothesis laterSteps unrecorded
      exact ⟨further, some?.cons _, ends⟩
    · obtain ⟨further, some?, ends⟩ := inductionHypothesis laterSteps goesOn
      refine ⟨record :: further, some?.cons_cons _, ?_⟩
      rwa [List.append_assoc] at ends

/-- What each link keeps holds at the end of the chain. The links may use which member they are for.
-/
theorem Chain.keeps {σ α : Type} {effect : α → σ → σ → Prop} {invariant : σ → Prop}
    {members : List α} {before after : σ} (chain : Chain effect members before after)
    (kept : ∀ member ∈ members, ∀ earlier later, effect member earlier later →
      invariant earlier → invariant later)
    (starts : invariant before) : invariant after := by
  have steps : ∀ member ∈ members, ∀ earlier later, effect member earlier later →
      invariant earlier → invariant later ∧ True ∧ ∀ _ : α, True → True :=
    fun member inside earlier later step holds =>
      ⟨kept member inside earlier later step holds, trivial, fun _ _ => trivial⟩
  exact (chain.reaches steps starts).1

namespace Ends

variable {σ α β : Type} {step : EStateM Failure σ α} {state after : σ} {done done' : α → σ → Prop}
  {failed failed' : Failure → σ → Prop}

/-! ## What is known of an outcome -/

/-- The condition for success holds of a run that is done. -/
theorem of_ok (ends : Ends step state done failed) {value : α}
    (ran : step.run state = .ok value after) : done value after := by
  rwa [Ends, ran] at ends

/-- The condition for failure holds of a run that has failed, in the state in which it stopped. -/
theorem of_error (ends : Ends step state done failed) {failure : Failure}
    (ran : step.run state = .error failure after) : failed failure after := by
  rwa [Ends, ran] at ends

/-- A step that does not fail has a value. -/
theorem exists_ok (ends : Ends step state done Never) :
    ∃ value after, step.run state = .ok value after ∧ done value after := by
  cases ran : step.run state with
  | ok value after => exact ⟨value, after, rfl, ends.of_ok ran⟩
  | error failure after => exact (ends.of_error ran).elim

/-- Both conditions may be weakened. -/
theorem mono (ends : Ends step state done failed)
    (onDone : ∀ value after, done value after → done' value after)
    (onFailed : ∀ failure after, failed failure after → failed' failure after) :
    Ends step state done' failed' := by
  rw [Ends]
  cases ran : step.run state with
  | ok value after => exact onDone value after (ends.of_ok ran)
  | error failure after => exact onFailed failure after (ends.of_error ran)

/-- The condition for success may be weakened alone. -/
theorem onDone (ends : Ends step state done failed)
    (implies : ∀ value after, done value after → done' value after) :
    Ends step state done' failed :=
  ends.mono implies fun _ _ holds => holds

/-- The condition for failure may be weakened alone. -/
theorem onFailed (ends : Ends step state done failed)
    (implies : ∀ failure after, failed failure after → failed' failure after) :
    Ends step state done failed' :=
  ends.mono (fun _ _ holds => holds) implies

/-- A step that does not fail ends within any condition on failures. -/
theorem weaken (ends : Ends step state done Never) : Ends step state done failed :=
  ends.onFailed fun _ _ impossible => impossible.elim

/-- What is known of a step in two ways holds together. -/
theorem and (first : Ends step state done failed) (second : Ends step state done' failed') :
    Ends step state (fun value after => done value after ∧ done' value after)
      (fun failure after => failed failure after ∧ failed' failure after) := by
  rw [Ends]
  cases ran : step.run state with
  | ok value after => exact ⟨first.of_ok ran, second.of_ok ran⟩
  | error failure after => exact ⟨first.of_error ran, second.of_error ran⟩

/-- The outcome is that of the run. -/
theorem ran (step : EStateM Failure σ α) (state : σ) :
    Ends step state (fun value after => step.run state = .ok value after)
      (fun failure after => step.run state = .error failure after) := by
  rw [Ends]
  cases step.run state <;> rfl

/-- Nothing is claimed of a run of which nothing is known. -/
theorem always (step : EStateM Failure σ α) (state : σ) :
    Ends step state (fun _ _ => True) fun _ _ => True :=
  (ran step state).mono (fun _ _ _ => trivial) fun _ _ _ => trivial

/-! ## Single steps -/

/-- An answer leaves the state as it is. -/
theorem value {value : α} (holds : done value state) :
    Ends (pure value : EStateM Failure σ α) state done failed := holds

/-- A failure leaves the state as it is: nothing is rolled back and nothing is lost. -/
theorem fail {failure : Failure} (holds : failed failure state) :
    Ends (throw failure : EStateM Failure σ α) state done failed := holds

/-- A change of the state cannot fail. -/
theorem modified {change : σ → σ} {done : Unit → σ → Prop} (holds : done () (change state)) :
    Ends (modify change : EStateM Failure σ Unit) state done failed := holds

/-! ## Sequences -/

/-- The second step starts where the first one ended. Either of them may fail, so both have to meet
the condition for failure. -/
theorem andThen {next : α → EStateM Failure σ β} {reached : α → σ → Prop} {done : β → σ → Prop}
    (first : Ends step state reached failed)
    (rest : ∀ value after, reached value after → Ends (next value) after done failed) :
    Ends (step >>= next) state done failed := by
  rw [Ends, EStateM.run_bind]
  cases ran : step.run state with
  | ok value after => exact rest value after (first.of_ok ran)
  | error failure after => exact first.of_error ran

/-- Looking at the state does not change it. -/
theorem lookThen {next : σ → EStateM Failure σ β} {done : β → σ → Prop}
    (rest : Ends (next state) state done failed) :
    Ends ((get : EStateM Failure σ σ) >>= next) state done failed := rest

/-- What follows a change starts in the changed state. -/
theorem modifyThen {change : σ → σ} {next : Unit → EStateM Failure σ β} {done : β → σ → Prop}
    (rest : Ends (next ()) (change state) done failed) :
    Ends ((modify change : EStateM Failure σ Unit) >>= next) state done failed := rest

/-- What follows starts in the state that has been set. -/
theorem setThen {next : PUnit → EStateM Failure σ β} {done : β → σ → Prop}
    (rest : Ends (next ⟨⟩) after done failed) :
    Ends ((set after : EStateM Failure σ PUnit) >>= next) state done failed := rest

/-! ## Loops -/

/-- One step for each member of a list, each of which keeps an invariant and what the steps
before it have reached. -/
theorem each {visit : α → EStateM Failure σ PUnit} {invariant : σ → Prop}
    {reached : α → σ → Prop} {members : List α}
    (steps : ∀ member ∈ members, ∀ before, invariant before →
      Ends (visit member) before (fun _ after => invariant after ∧ reached member after ∧
        ∀ other, reached other before → reached other after) failed)
    (starts : invariant state) :
    Ends (members.forM visit) state
      (fun _ after => invariant after ∧ (∀ member ∈ members, reached member after) ∧
        ∀ other, reached other state → reached other after) failed := by
  induction members generalizing state with
  | nil => exact value ⟨starts, by simp, fun _ holds => holds⟩
  | cons member later inductionHypothesis =>
    refine andThen (steps member List.mem_cons_self state starts) ?_
    rintro _ middle ⟨goesOn, reachedFirst, kept⟩
    have laterSteps := fun other inside => steps other (List.mem_cons_of_mem _ inside)
    refine (inductionHypothesis laterSteps goesOn).onDone ?_
    rintro _ after ⟨holds, reachedLater, stays⟩
    refine ⟨holds, fun other inside => ?_, fun other before => stays other (kept other before)⟩
    rcases List.mem_cons.mp inside with rfl | inLater
    · exact stays other reachedFirst
    · exact reachedLater other inLater

/-- One step for each member of a list, each of which keeps an invariant. -/
theorem eachKeeps {visit : α → EStateM Failure σ PUnit} {invariant : σ → Prop} {members : List α}
    (steps : ∀ member ∈ members, ∀ before, invariant before →
      Ends (visit member) before (fun _ after => invariant after) failed)
    (starts : invariant state) :
    Ends (members.forM visit) state (fun _ after => invariant after) failed := by
  have reaching : ∀ member ∈ members, ∀ before, invariant before →
      Ends (visit member) before
        (fun _ after => invariant after ∧ True ∧ ∀ _ : α, True → True) failed :=
    fun member inside before holds => (steps member inside before holds).onDone
      fun _ _ goesOn => ⟨goesOn, trivial, fun _ _ => trivial⟩
  exact (each reaching starts).onDone fun _ _ holds => holds.1

/-- One step for each member of a list, each of which has an effect and keeps an invariant, and
leaves the state as it is when it fails. The loop has these effects, up to a step that fails, and
fails as that step does. -/
theorem chain {visit : α → EStateM Failure σ PUnit} {invariant : σ → Prop}
    {effect : α → σ → σ → Prop} {breaks : Failure → Prop} {members : List α}
    (steps : ∀ member ∈ members, ∀ before, invariant before →
      Ends (visit member) before (fun _ after => effect member before after ∧ invariant after)
        fun failure after => breaks failure ∧ after = before)
    (starts : invariant state) :
    Ends (members.forM visit) state (fun _ after => Chain effect members state after)
      fun failure after => breaks failure ∧
        ∃ served, served <+: members ∧ Chain effect served state after := by
  induction members generalizing state with
  | nil => exact value (.nil state)
  | cons member later inductionHypothesis =>
    refine andThen ((steps member List.mem_cons_self state starts).onFailed ?_) ?_
    · rintro failure after ⟨broken, rfl⟩
      exact ⟨broken, [], List.nil_prefix, .nil after⟩
    rintro _ middle ⟨first, goesOn⟩
    have laterSteps := fun other inside => steps other (List.mem_cons_of_mem _ inside)
    refine (inductionHypothesis laterSteps goesOn).mono (fun _ _ rest => .cons first rest) ?_
    rintro failure after ⟨broken, served, isPrefix, rest⟩
    exact ⟨broken, member :: served, List.prefix_cons_inj member |>.mpr isPrefix, .cons first rest⟩

end Ends

end FlowModel
