import HttpExchange.Action.Update
import HttpExchange.Proofs.Except

/-!
# An update as a plan and its execution

Before it writes anything, an update reads what it needs and settles what it is
going to write; from then on it only writes and shows. Here the two halves are
functions of their own, and the action is shown to be the one after the other.
What an update refuses can be read off the plan, and what it may leave behind
off the execution.

## Main definitions

* `Plan`, `plan` — what an update is going to write, or why it is refused.
* `Plan.execute` — the writes of a plan, and the objects that are shown.

## Main results

* `apply_run` — an update plans and then executes its plan.
* `apply_preserves` — what every write keeps, an update keeps.
* `Update.run_error` — an update that fails, other than by the sink, answers nothing.
-/

namespace HttpExchange

namespace Update

/-- What an update is going to write. -/
inductive Plan where
  /-- Nothing, because no field applies. -/
  | nothing
  /-- The fields, to the objects that are there. -/
  | inPlace (ids : List Nat) (fields : Members)
  /-- The fields, to a new draft. -/
  | fork (fields : Members)
  deriving DecidableEq

section Plans

variable {S : Type} [ObjectStore S]

/-- What an update with some fields is going to write, given the objects it is about. -/
def planFields (p : UpdateParams) (fields : Members) (ids : List Nat) (s : S) :
    Except Failure Plan :=
  if ids.length != 1 then .ok (.inPlace ids fields)
  else if Store.isDraft (paramOf "state" fields) then
    match ObjectStore.read p.entity ids ["state"] p.lang s with
    | .error e => .error (.storage e)
    | .ok live =>
      if Store.isDraft (liveValue "state" live) then .ok (.inPlace ids fields)
      else .ok (.fork fields)
  else
    match Assoc.get? "modified" fields with
    | none => .ok (.inPlace ids fields)
    | some submitted =>
      match ObjectStore.read p.entity ids ["modified"] p.lang s with
      | .error e => .error (.storage e)
      | .ok live =>
        if !(liveValue "modified" live).equiv submitted && !p.force then
          .error (.conflict "concurrent_change")
        else .ok (.inPlace ids fields)

/-- What an update is going to write, with the schema of what it writes to. -/
def plan (registry : Registry) (p : UpdateParams) (s : S) : Except Failure (Schema × Plan) :=
  match targets p with
  | .error e => .error e
  | .ok ids =>
    match ObjectStore.schema? p.entity s with
    | none => .error (.invalidParam "unknown_entity")
    | some schema =>
      match adaptFields registry schema p.fields with
      | .error e => .error e
      | .ok fields =>
        if fields.isEmpty then .ok (schema, .nothing)
        else (planFields p fields ids s).map fun plan => (schema, plan)

/-- A plan for an entity is made from its schema and from the fields that apply. -/
theorem plan_eq_ok {registry : Registry} {p : UpdateParams} {s : S} {schema : Schema}
    {plan : Plan} (h : Update.plan registry p s = .ok (schema, plan)) :
    ObjectStore.schema? p.entity s = some schema ∧ (plan = .nothing ∨ ∃ ids fields,
      targets p = .ok ids ∧ adaptFields registry schema p.fields = .ok fields ∧
        planFields p fields ids s = .ok plan) := by
  unfold Update.plan at h
  cases htargets : targets p with
  | error e => simp [htargets] at h
  | ok ids =>
      cases hschema : ObjectStore.schema? p.entity s with
      | none => simp [htargets, hschema] at h
      | some schema' =>
          cases hfields : adaptFields registry schema' p.fields with
          | error e => simp [htargets, hschema, hfields] at h
          | ok fields =>
              simp only [htargets, hschema, hfields] at h
              by_cases hempty : fields.isEmpty = true
              · rw [if_pos hempty] at h
                obtain ⟨rfl, rfl⟩ := Prod.mk.inj (Except.ok.inj h)
                exact ⟨rfl, Or.inl rfl⟩
              · rw [if_neg hempty] at h
                obtain ⟨plan', hplan, hpair⟩ := map_eq_ok_iff.mp h
                obtain ⟨rfl, rfl⟩ := Prod.mk.inj hpair
                exact ⟨rfl, Or.inr ⟨ids, fields, rfl, hfields, hplan⟩⟩

/-- Only fields that make a draft are planned for a new object. -/
theorem isDraft_of_planFields {p : UpdateParams} {fields fields' : Members} {ids : List Nat}
    {s : S} (h : planFields p fields ids s = .ok (.fork fields')) :
    fields' = fields ∧ Store.isDraft (paramOf "state" fields) = true := by
  unfold planFields at h
  split at h
  · cases h
  · split at h
    · next hdraft =>
        split at h
        · cases h
        · split at h
          · cases h
          · exact ⟨(Plan.fork.inj (Except.ok.inj h)).symm, hdraft⟩
    · split at h
      · cases h
      · split at h
        · cases h
        · split at h <;> cases h

/-- The objects as they are shown after an update. -/
def shown (registry : Registry) (p : UpdateParams) (schema : Schema) (ids : List Nat) (s : S) :
    Except Failure (List Json) :=
  match ObjectStore.read p.entity ids shownFields p.lang s with
  | .error e => .error (.storage e)
  | .ok rows => rows.mapM (adaptRow registry schema)

/-- The last write of an update, and the objects that it shows. -/
def finish (wall : Nat → Int) (registry : Registry) (p : UpdateParams) (schema : Schema)
    (ids : List Nat) (fields : Members) (s : S) : Except Failure (List Json) × S :=
  match ObjectStore.update (wall 2) p.entity ids fields p.lang s with
  | (.error e, s) => (.error (.storage e), s)
  | (.ok (), s) => (shown registry p schema ids s, s)

/-- Writes what is planned. -/
def Plan.execute (wall : Nat → Int) (registry : Registry) (p : UpdateParams) (schema : Schema)
    (s : S) : Plan → Except Failure (List Json) × S
  | .nothing => (.ok [], s)
  | .inPlace ids fields => finish wall registry p schema ids fields s
  | .fork fields =>
    match ObjectStore.create (wall 0) p.entity [("state", draft)] p.lang s with
    | (.error e, s) => (.error (.storage e), s)
    | (.ok id, s) =>
      match ObjectStore.update (wall 1) p.entity [id] fields p.lang s with
      | (.error e, s) => (.error (.storage e), s)
      | (.ok (), s) => finish wall registry p schema [id] fields s

/-! ## The action is its plan, executed -/

section Run

variable {α β : Type}

omit [ObjectStore S]

theorem run_bind (x : Transaction S α) (f : α → Transaction S β) (s : S) :
    (x >>= f).run.run s =
      match x.run.run s with
      | (.ok a, s) => (f a).run.run s
      | (.error e, s) => (.error e, s) := by
  rw [ExceptT.run_bind, StateT.run_bind]
  cases x.run.run s with
  | mk r s' => cases r <;> rfl

theorem run_perform (op : S → Except StoreError α × S) (s : S) :
    (perform op).run.run s =
      match op s with
      | (.ok a, s) => (.ok a, s)
      | (.error e, s) => (.error (.storage e), s) := rfl

theorem run_ask (question : S → Except StoreError α) (s : S) :
    (ask question).run.run s =
      match question s with
      | .ok a => (.ok a, s)
      | .error e => (.error (.storage e), s) := by
  rw [ask, run_perform]
  cases question s <;> rfl

theorem run_settle (r : Except Failure α) (s : S) :
    (settle r : Transaction S α).run.run s = (r, s) := rfl

theorem run_pure (a : α) (s : S) : (pure a : Transaction S α).run.run s = (.ok a, s) := rfl

theorem run_get (s : S) : (get : Transaction S S).run.run s = (.ok s, s) := rfl

end Run

/-- The rest of an update once its fields are known: redirection, the last write, and what is
shown. -/
theorem redirect_run (wall : Nat → Int) (registry : Registry) (p : UpdateParams) (schema : Schema)
    (fields : Members) (ids : List Nat) (s : S) :
    (redirect wall p fields ids >>= fun ids => do
        perform (ObjectStore.update (wall 2) p.entity ids fields p.lang)
        let rows ← ask (ObjectStore.read p.entity ids shownFields p.lang)
        settle (rows.mapM (adaptRow registry schema))).run.run s =
      match planFields p fields ids s with
      | .error e => (.error e, s)
      | .ok plan => plan.execute wall registry p schema s := by
  have hfinish : ∀ ids (s : S), (do
        perform (ObjectStore.update (wall 2) p.entity ids fields p.lang)
        let rows ← ask (ObjectStore.read p.entity ids shownFields p.lang)
        settle (rows.mapM (adaptRow registry schema)) : Transaction S (List Json)).run.run s =
      finish wall registry p schema ids fields s := by
    intro ids s
    rw [run_bind, run_perform, finish]
    cases ObjectStore.update (wall 2) p.entity ids fields p.lang s with
    | mk r s' =>
        cases r with
        | error e => rfl
        | ok u =>
            simp only [run_bind, run_ask, shown]
            cases ObjectStore.read p.entity ids shownFields p.lang s' <;> rfl
  rw [run_bind]
  unfold redirect planFields
  by_cases hone : (ids.length != 1) = true
  · rw [if_pos hone, if_pos hone, run_pure]
    exact hfinish ids s
  rw [if_neg hone, if_neg hone]
  by_cases hdraft : Store.isDraft (paramOf "state".toList fields) = true
  · rw [if_pos hdraft, if_pos hdraft, run_bind, run_ask]
    cases ObjectStore.read p.entity ids ["state".toList] p.lang s with
    | error e => rfl
    | ok live =>
        simp only
        by_cases hlive : Store.isDraft (liveValue "state".toList live) = true
        · rw [if_pos hlive, if_pos hlive, run_pure]
          exact hfinish ids s
        · rw [if_neg hlive, if_neg hlive, run_bind, run_perform]
          simp only [Plan.execute]
          rcases ObjectStore.create (wall 0) p.entity [("state".toList, draft)] p.lang s
            with ⟨_ | fork, s₁⟩
          · rfl
          · simp only
            rw [run_bind, run_perform]
            rcases ObjectStore.update (wall 1) p.entity [fork] fields p.lang s₁ with ⟨_ | _, s₂⟩
            · rfl
            · exact hfinish [fork] s₂
  rw [if_neg hdraft, if_neg hdraft]
  cases Assoc.get? "modified".toList fields with
  | none => exact hfinish ids s
  | some submitted =>
      rw [run_bind, run_ask]
      cases ObjectStore.read p.entity ids ["modified".toList] p.lang s with
      | error e => rfl
      | ok live =>
          simp only
          by_cases hstale : (!(liveValue "modified".toList live).equiv submitted && !p.force) = true
          · rw [if_pos hstale, if_pos hstale]
            rfl
          · rw [if_neg hstale, if_neg hstale]
            exact hfinish ids s

/-- **An update is its plan, executed.** A refused plan leaves the store as it is. -/
theorem apply_run (wall : Nat → Int) (registry : Registry) (p : UpdateParams) (s : S) :
    (apply wall registry p).run.run s =
      match plan registry p s with
      | .error e => (.error e, s)
      | .ok (schema, plan) => plan.execute wall registry p schema s := by
  unfold apply plan
  rw [run_bind, run_settle]
  cases targets p with
  | error e => rfl
  | ok ids =>
      simp only [run_bind, run_get]
      cases ObjectStore.schema? p.entity s with
      | none => rfl
      | some schema =>
          simp only [run_bind, run_settle]
          cases adaptFields registry schema p.fields with
          | error e => rfl
          | ok fields =>
              simp only
              by_cases hempty : fields.isEmpty = true
              · rw [if_pos hempty, if_pos hempty]
                rfl
              · rw [if_neg hempty, if_neg hempty, redirect_run]
                cases planFields p fields ids s <;> rfl

/-! ## What an update keeps -/

section Keeps

variable {P : S → Prop} {p : UpdateParams}

theorem finish_preserves
    (hupdate : ∀ now ids values s, P s → P (ObjectStore.update now p.entity ids values p.lang s).2)
    {wall : Nat → Int} {registry : Registry} {schema : Schema} {ids : List Nat} {fields : Members}
    {s : S} (h : P s) : P (finish wall registry p schema ids fields s).2 := by
  have hs := hupdate (wall 2) ids fields s h
  rw [finish]
  rcases hu : ObjectStore.update (wall 2) p.entity ids fields p.lang s with ⟨_ | _, s'⟩
  · rw [hu] at hs
    exact hs
  · rw [hu] at hs
    exact hs

theorem execute_preserves
    (hcreate : ∀ now values s, P s → P (ObjectStore.create now p.entity values p.lang s).2)
    (hupdate : ∀ now ids values s, P s → P (ObjectStore.update now p.entity ids values p.lang s).2)
    {wall : Nat → Int} {registry : Registry} {schema : Schema} {s : S} (h : P s) (plan : Plan) :
    P (plan.execute wall registry p schema s).2 := by
  cases plan with
  | nothing => exact h
  | inPlace ids fields => exact finish_preserves hupdate h
  | fork fields =>
      have hs := hcreate (wall 0) [("state".toList, draft)] s h
      simp only [Plan.execute]
      rcases hc : ObjectStore.create (wall 0) p.entity [("state".toList, draft)] p.lang s
        with ⟨_ | fork, s₁⟩
      · rw [hc] at hs
        exact hs
      · rw [hc] at hs
        have hs' := hupdate (wall 1) [fork] fields s₁ hs
        rcases hu : ObjectStore.update (wall 1) p.entity [fork] fields p.lang s₁ with ⟨_ | _, s₂⟩
        · rw [hu] at hs'
          simp only [hu]
          exact hs'
        · rw [hu] at hs'
          simp only [hu]
          exact finish_preserves hupdate hs'

/-- **What every write keeps, an update keeps**, whether it succeeds or not. -/
theorem apply_preserves
    (hcreate : ∀ now values s, P s → P (ObjectStore.create now p.entity values p.lang s).2)
    (hupdate : ∀ now ids values s, P s → P (ObjectStore.update now p.entity ids values p.lang s).2)
    (wall : Nat → Int) (registry : Registry) {s : S} (h : P s) :
    P ((apply wall registry p).run.run s).2 := by
  rw [apply_run]
  rcases plan registry p s with _ | ⟨schema, plan⟩
  · exact h
  · exact execute_preserves hcreate hupdate h plan

end Keeps

end Plans

end Update

/-! ## Answers -/

theorem Sink.write_error {t : Text} {k : Sink} {e : Failure} (h : (k.write t).1 = .error e) :
    ∃ fault, e = .io fault := by
  unfold Sink.write at h
  cases hwrite : k.writeFault with
  | some fault =>
      rw [hwrite] at h
      exact ⟨fault, (Except.error.inj h).symm⟩
  | none =>
      rw [hwrite] at h
      cases hflush : k.flushFault with
      | some fault =>
          simp only [hflush] at h
          exact ⟨fault, (Except.error.inj h).symm⟩
      | none =>
          simp only [hflush] at h
          cases h

/-- Only the sink can keep a response from being sent. -/
theorem Context.respond_error {code : UInt16} {v : Json} {c : Context} {e : Failure}
    (h : (c.respond code v).1 = .error e) : ∃ fault, e = .io fault := by
  rw [Context.respond] at h
  revert h
  generalize (answerEdits code v).foldl (fun c e => c.edit e) c = c
  intro h
  rw [Context.send] at h
  rcases hwrite : c.sink.write (Response.wire c.response) with ⟨_ | _, k⟩
  · rw [hwrite] at h
    exact Sink.write_error (congrArg Prod.fst hwrite |>.trans h)
  · rw [hwrite] at h
    cases h

/-- What an update leaves is what its writes leave. -/
theorem Update.run_store {S : Type} [ObjectStore S] (wall : Nat → Int) (registry : Registry)
    (p : UpdateParams) (s : S) (c : Context) :
    (Update.run wall registry p s c).2.1 = ((apply wall registry p).run.run s).2 := by
  unfold Update.run
  rcases (apply wall registry p).run.run s with ⟨_ | _, s'⟩ <;> rfl

/-- A sink that works takes the response. -/
theorem Context.respond_eq_ok {c : Context} (hwrite : c.sink.writeFault = none)
    (hflush : c.sink.flushFault = none) (code : UInt16) (v : Json) :
    ∃ c' : Context, c.respond code v = (.ok (), c') ∧ c'.sent = true ∧
      c'.response = (answerEdits code v).foldl Edit.apply c.response ∧
      c'.sink.written = c.sink.written ++ Response.wire c'.response := by
  let response := (answerEdits code v).foldl Edit.apply c.response
  let sink : Sink := { c.sink with written := c.sink.written ++ Response.wire response }
  refine ⟨⟨response, sink, true⟩, ?_, rfl, rfl, rfl⟩
  have hsent : c.sink.write (Response.wire response) = (.ok (), sink) := by
    simp only [Sink.write, hwrite, hflush, sink]
  change Context.send { c with response } = _
  rw [Context.send, hsent]

/-- An update that fails, other than by the sink, has not touched its response. -/
theorem Update.run_error {S : Type} [ObjectStore S] {wall : Nat → Int} {registry : Registry}
    {p : UpdateParams} {s : S} {c : Context} {e : Failure}
    (h : (Update.run wall registry p s c).1 = .error e)
    (he : ∀ fault, e ≠ .io fault) :
    ((apply wall registry p).run.run s).1 = .error e ∧
      (Update.run wall registry p s c).2 = (((apply wall registry p).run.run s).2, c) := by
  unfold Update.run at h ⊢
  rcases happly : (apply wall registry p).run.run s with ⟨_ | rows, s'⟩
  · simp only [happly] at h
    obtain rfl := Except.error.inj h
    exact ⟨rfl, rfl⟩
  · rw [happly] at h
    obtain ⟨fault, hfault⟩ := Context.respond_error h
    exact absurd hfault (he fault)

end HttpExchange
