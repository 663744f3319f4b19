import Hybrid.Reading

/-! # Reasoning about actions

`Action.Ensures` says what holds of the outcome of an action and of the store after it, whether the
action fails or not. There is one rule for each way of putting actions together, so that no proof
has to open the monad.
-/

namespace Hybrid.Action

variable {α β : Type} {store : Store}

/-- Started in `store`, the action ends with an outcome and in a store that are as `post` says. -/
def Ensures (action : Action α) (store : Store) (post : Except HybridError α → Store → Prop) :
    Prop :=
  post (action.run store).1 (action.run store).2

theorem Ensures.mono {action : Action α} {weak strong : Except HybridError α → Store → Prop}
    (ensured : action.Ensures store strong)
    (weaker : ∀ outcome after, strong outcome after → weak outcome after) :
    action.Ensures store weak :=
  weaker _ _ ensured

/-- The run itself may be used to weaken what is ensured. -/
theorem Ensures.mono_run {action : Action α} {weak strong : Except HybridError α → Store → Prop}
    (ensured : action.Ensures store strong)
    (weaker : ∀ outcome after, action.run store = (outcome, after) → strong outcome after →
      weak outcome after) : action.Ensures store weak :=
  weaker _ _ rfl ensured

theorem Ensures.and {action : Action α} {first second : Except HybridError α → Store → Prop}
    (left : action.Ensures store first) (right : action.Ensures store second) :
    action.Ensures store fun outcome after => first outcome after ∧ second outcome after :=
  ⟨left, right⟩

theorem Ensures.of_forall {action : Action α} {post : Except HybridError α → Store → Prop}
    (always : ∀ outcome after, post outcome after) : action.Ensures store post :=
  always _ _

@[simp] theorem ensures_pure {result : α} {post : Except HybridError α → Store → Prop} :
    (pure result : Action α).Ensures store post ↔ post (.ok result) store := Iff.rfl

@[simp] theorem ensures_throw {error : HybridError} {post : Except HybridError α → Store → Prop} :
    (throw error : Action α).Ensures store post ↔ post (.error error) store := Iff.rfl

private theorem stateBind_apply (first : StateM Store α) (next : α → StateM Store β)
    (store : Store) : (first >>= next) store = next (first store).1 (first store).2 := rfl

/-- The second action starts where the first has ended, if that has a result. -/
theorem run_bind (first : Action α) (next : α → Action β) (store : Store) :
    (first >>= next).run store =
      match (first.run store).1 with
      | .ok result => (next result).run (first.run store).2
      | .error error => (.error error, (first.run store).2) := by
  rw [ExceptT.run_bind, stateBind_apply]
  cases (first.run store).1 <;> rfl

@[simp] theorem ensures_bind {first : Action α} {next : α → Action β}
    {post : Except HybridError β → Store → Prop} :
    (first >>= next).Ensures store post ↔
      first.Ensures store fun outcome after =>
        match outcome with
        | .ok result => (next result).Ensures after post
        | .error error => post (.error error) after := by
  unfold Ensures
  rw [run_bind]
  cases (first.run store).1 <;> rfl

/-- What is done to a result is done to the outcome. -/
theorem ensures_bind_pure {action : Action α} {image : α → β}
    {post : Except HybridError β → Store → Prop} :
    (action >>= fun result => pure (image result)).Ensures store post ↔
      action.Ensures store fun outcome after => post (outcome.map image) after := by
  rw [ensures_bind]
  unfold Ensures
  cases (action.run store).1 <;> rfl

@[simp] theorem ensures_tryCatch {body : Action α} {handler : HybridError → Action α}
    {post : Except HybridError α → Store → Prop} :
    (tryCatch body handler : Action α).Ensures store post ↔
      body.Ensures store fun outcome after =>
        match outcome with
        | .ok result => post (.ok result) after
        | .error error => (handler error).Ensures after post := by
  have unfolded : (tryCatch body handler : Action α).run store =
      match (body.run store).1 with
      | .ok result => (.ok result, (body.run store).2)
      | .error error => (handler error).run (body.run store).2 := by
    rw [ExceptT.run_tryCatch, stateBind_apply]
    cases (body.run store).1 <;> rfl
  unfold Ensures
  rw [unfolded]
  cases (body.run store).1 <;> rfl

@[simp] theorem ensures_ofStep {step : Store → α × Store}
    {post : Except HybridError α → Store → Prop} :
    (ofStep step).Ensures store post ↔ post (.ok (step store).1) (step store).2 := Iff.rfl

@[simp] theorem ensures_change {step : Store → Store}
    {post : Except HybridError Unit → Store → Prop} :
    (change step).Ensures store post ↔ post (.ok ()) (step store) := Iff.rfl

@[simp] theorem ensures_look {view : Store → α} {post : Except HybridError α → Store → Prop} :
    (look view).Ensures store post ↔ post (.ok (view store)) store := Iff.rfl

@[simp] theorem ensures_report {event : Event} {post : Except HybridError Unit → Store → Prop} :
    (report event).Ensures store post ↔ post (.ok ()) (store.report event) := Iff.rfl

@[simp] theorem ensures_stamp {content : α} {post : Except HybridError (Stamped α) → Store → Prop} :
    (stamp content).Ensures store post ↔
      post (.ok ⟨store.next, content⟩) { store with next := store.next + 1 } := Iff.rfl

/-- The outcome of arithmetic as that of an action. -/
def arithmeticOutcome : Except ArithmeticError α → Except HybridError α
  | .ok result => .ok result
  | .error error => .error (.arithmetic error)

@[simp] theorem ensures_ofArithmetic {result : Except ArithmeticError α}
    {post : Except HybridError α → Store → Prop} :
    (ofArithmetic result).Ensures store post ↔ post (arithmeticOutcome result) store := by
  cases result <;> rfl

/-- A guarded action runs with its frame on top of the build stack, which is taken off after it; it
does not run at all if the frame is on the stack already. -/
theorem run_guarded (modelClass : ModelClass) (instance? : Option InstanceId) (hybrid : String)
    (action : Action α) (store : Store) :
    (guarded modelClass instance? hybrid action).run store =
      match store.cycle? ⟨modelClass.id, instance?, hybrid⟩ with
      | some chain => (.error (.cyclicDependency modelClass.name chain), store)
      | none =>
        let ended :=
          action.run { store with building := store.building ++ [⟨modelClass.id, instance?, hybrid⟩] }
        (ended.1, { ended.2 with building := ended.2.building.take store.building.length }) := rfl

theorem ensures_guarded {modelClass : ModelClass} {instance? : Option InstanceId} {hybrid : String}
    {action : Action α} {post : Except HybridError α → Store → Prop} :
    (guarded modelClass instance? hybrid action).Ensures store post ↔
      match store.cycle? ⟨modelClass.id, instance?, hybrid⟩ with
      | some chain => post (.error (.cyclicDependency modelClass.name chain)) store
      | none =>
        action.Ensures { store with building := store.building ++ [⟨modelClass.id, instance?, hybrid⟩] }
          fun outcome after =>
            post outcome { after with building := after.building.take store.building.length } := by
  unfold Ensures
  rw [run_guarded]
  cases store.cycle? ⟨modelClass.id, instance?, hybrid⟩ <;> rfl

end Hybrid.Action
