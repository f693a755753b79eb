import HttpExchange.Request
import HttpExchange.Response

/-!
# Histories of messages

A message begins as a message without more, as a request or as a response, and
then it is edited. All that happens on the way, the first line of a request or a
response included, is a sequence of edits of the message with nothing in it. So
what holds of that message and is kept by every edit holds of every message.

## Main results

* `Edit.applyAll_of_step` — what every edit keeps, some edits one after the other keep.
* `Origin.message_of_bare` — what the edits of a first line keep holds of a message as it begins,
  if it holds of the message without one.
* `Origin.message_of_step` — what every edit keeps holds of a message as it begins.
-/

namespace HttpExchange

/-- How a message begins. -/
inductive Origin where
  | plain (hs : Headers) (b : Body) (d : Decoder)
  | request (headline : Text) (hs : Headers) (b : Body) (config : HttpConfig)
  | response (headline : Text) (hs : Headers) (b : Body) (config : HttpConfig)

/-- The message as it begins. -/
def Origin.message : Origin → Message
  | .plain hs b d => Message.create hs b d
  | .request headline hs b config => Request.create headline hs b config
  | .response headline hs b config => Response.create headline hs b config

/-- The message before it gets a first line. -/
def Origin.bare : Origin → Message
  | .plain hs b d => Message.create hs b d
  | .request _ hs b config | .response _ hs b config => Message.create hs b config.decoder

/-- A message as it is after a history: how it began, and the edits since. -/
def Message.after (origin : Origin) (edits : List Edit) : Message :=
  Edit.applyAll origin.message edits

theorem Message.after_concat (origin : Origin) (edits : List Edit) (edit : Edit) :
    after origin (edits ++ [edit]) = Edit.apply (after origin edits) edit := by
  rw [after, Edit.applyAll, List.foldl_append]
  rfl

/-! ## Parameters that are removed -/

/-- Only the body changes when a parameter is removed. -/
theorem Message.dropParam_eq (name : Text) (m : Message) :
    ∃ body, m.dropParam name = { m with body } := by
  unfold dropParam
  split
  · exact ⟨_, rfl⟩
  · exact ⟨m.body, rfl⟩

theorem Message.dropParams_eq (names : List Text) (m : Message) :
    ∃ body, m.dropParams names = { m with body } := by
  unfold dropParams
  induction names generalizing m with
  | nil => exact ⟨m.body, rfl⟩
  | cons name names ih =>
      obtain ⟨body, heq⟩ := m.dropParam_eq name
      rw [List.foldl_cons, heq]
      exact ih { m with body }

/-! ## What edits keep -/

variable {P : Message → Prop}

section Headline

/-- The edits that a first line makes. -/
def Edit.isOfHeadline : Edit → Bool
  | .method _ | .protocol _ | .status _ | .uri _ | .extendBody _ => true
  | _ => false

variable (hstep : ∀ m edit, Edit.isOfHeadline edit = true → P m → P (Edit.apply m edit))

include hstep

theorem Request.applyTarget_of_step (scheme target : Text) {m : Message} (h : P m) :
    P (applyTarget scheme target m) := by
  unfold applyTarget
  split
  · exact hstep m (.uri target) rfl h
  · split
    · unfold applyPath
      split
      · exact hstep m (.uri _) rfl h
      · split
        · exact hstep m (.extendBody _) rfl h
        · exact h
    · exact h

theorem Request.applyRest_of_step (scheme : Text) (rest : List Text) {m : Message} (h : P m) :
    P (applyRest scheme rest m) := by
  unfold applyRest
  split
  · exact h
  · exact applyTarget_of_step hstep _ _ h
  · next protocol _ => exact applyTarget_of_step hstep _ _ (hstep m (.protocol protocol) rfl h)

theorem Request.applyHeadline_of_step (headline scheme : Text) {m : Message} (h : P m) :
    P (applyHeadline headline scheme m) := by
  unfold applyHeadline
  split
  · exact h
  · next first rest _ =>
      split
      · next method hmethod =>
          have hset : Edit.apply m (.method first) = { m with method } := by
            simp [Edit.apply, Message.setMethod, hmethod]
          exact applyRest_of_step hstep _ _ (hset ▸ hstep m (.method first) rfl h)
      · exact applyRest_of_step hstep _ _ h

theorem Response.applyHeadline_of_step (headline : Text) {m : Message} (h : P m) :
    P (applyHeadline headline m) := by
  have hwhole : P (if namesProtocol (Text.trim headline) then m.setProtocol (Text.trim headline)
      else if (Text.trim headline).isEmpty then m else m.setStatus (Text.trim headline)) := by
    split
    · exact hstep m (.protocol _) rfl h
    · split
      · exact h
      · exact hstep m (.status _) rfl h
  unfold applyHeadline
  dsimp only
  split
  · next protocol status _ =>
      split
      · exact hstep _ (.status status) rfl (hstep m (.protocol protocol) rfl h)
      · exact hwhole
  · exact hwhole

/-- A message as it begins is a message without a first line, with the edits of one. -/
theorem Origin.message_of_bare {origin : Origin} (h : P origin.bare) : P origin.message := by
  cases origin with
  | plain hs b d => exact h
  | request headline hs b config =>
      have hprotocol := hstep _ (.protocol config.defaultProtocol) rfl h
      exact Request.applyHeadline_of_step hstep headline config.defaultScheme hprotocol
  | response headline hs b config =>
      have hprotocol := hstep _ (.protocol config.defaultProtocol) rfl h
      exact Response.applyHeadline_of_step hstep headline hprotocol

theorem Origin.message_of_create (hcreate : ∀ hs b d, P (Message.create hs b d))
    (origin : Origin) : P origin.message := by
  refine message_of_bare hstep ?_
  cases origin <;> exact hcreate _ _ _

end Headline

section Invariant

variable (hblank : ∀ d, P (Message.blank d)) (hstep : ∀ m edit, P m → P (Edit.apply m edit))

include hstep

theorem Edit.applyAll_of_step (edits : List Edit) {m : Message} (h : P m) :
    P (Edit.applyAll m edits) := by
  induction edits generalizing m with
  | nil => exact h
  | cons edit edits ih => exact ih (hstep m edit h)

include hblank

theorem Message.create_of_step (hs : Headers) (b : Body) (d : Decoder) :
    P (Message.create hs b d) :=
  Edit.applyAll_of_step hstep [.headers hs, .body b, .protocol defaultProtocol, .uri []] (hblank d)

theorem Origin.message_of_step (origin : Origin) : P origin.message :=
  message_of_create (fun m edit _ => hstep m edit) (Message.create_of_step hblank hstep) origin

/-- **What every edit keeps holds after every history.** -/
theorem Message.after_of_step (origin : Origin) (edits : List Edit) :
    P (Message.after origin edits) :=
  Edit.applyAll_of_step hstep edits (Origin.message_of_step hblank hstep origin)

end Invariant

end HttpExchange
