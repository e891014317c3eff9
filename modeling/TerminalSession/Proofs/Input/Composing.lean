import TerminalSession.Input.Encoding

/-!
# Runs of a composition

What a composition has come to after some events is told from the events alone, by the last one of them
that belongs to a composition. So is what each event writes.

## Main definitions

* `Composer.run`, `Composer.actions`: the composition after some events, and what they come to
* `InputEvent.lastStep?`: the last event of a composition in a history
* `InputEvent.isComposing`, `InputEvent.draft`: whether a composition is open then, and its text
* `InputEvent.committed`: the text that the end of a composition commits
* `InputEvent.shares`: the bytes that each event adds to what is written

## Main statements

* `InputEvent.isComposing_iff`, `InputEvent.draft_eq_iff`: both are told from what was not followed by
  another step
* `Composer.fst_encode_ofHistory`, `Composer.bytes_encode_ofHistory`: after an event the composition is
  the one of the longer history, and the event has written its share
* `Composer.run_ofHistory`: so it is after a run
* `Composer.composition_run`: what keys, pastes and ends of compositions come to after any run, and all
  that a run writes

## Design notes

* Steps of a composition may come in any order: a beginning may come twice, a text without a beginning,
  an end without anything before it. So nothing is assumed of a history.
* A key that moves the window writes nothing, and it has no bytes.
-/

namespace TerminalSession

open Text.Utf8 (encode)

/-- The bytes that an action writes. A movement of the window writes none. -/
def InputAction.bytes : InputAction → List UInt8
  | .write bytes => bytes
  | .scroll _ => []
  | .ignore => []

@[simp] theorem InputAction.bytes_ofBytes (bytes : List UInt8) : (ofBytes bytes).bytes = bytes := by
  cases bytes <;> rfl

theorem InputAction.ofBytes_encode (text : Text) :
    ofBytes (encode text) = if text = [] then .ignore else .write (encode text) := by
  cases text with
  | nil => rfl
  | cons c rest =>
    have some_byte : (encode (c :: rest)).isEmpty = false := by
      rw [List.isEmpty_eq_false_iff, Text.Utf8.encode_cons]
      exact List.append_ne_nil_of_left_ne_nil String.utf8EncodeChar_ne_nil _
    rw [ofBytes, some_byte, if_neg (List.cons_ne_nil c rest)]
    rfl

/-! ### Histories -/

namespace InputEvent

/-- Whether an event opens a composition, or finds it open. -/
def opens : InputEvent → Bool
  | .compositionStart => true
  | .compositionUpdate _ => true
  | _ => false

/-- The composed text that an event gives. -/
def given : InputEvent → Text
  | .compositionUpdate text => text
  | _ => []

/-- Whether an event ends a composition. -/
def ends : InputEvent → Bool
  | .compositionEnd _ => true
  | _ => false

/-- Whether an event belongs to a composition. -/
def isStep (event : InputEvent) : Bool := event.opens || event.ends

/-- The last event of a composition in a history. What came before it does not matter to whether one
is open. -/
def lastStep? (history : List InputEvent) : Option InputEvent := history.reverse.find? isStep

/-- Whether a composition is open after a history. -/
def isComposing (history : List InputEvent) : Bool := (lastStep? history).any opens

/-- The text that is composed after a history. -/
def draft (history : List InputEvent) : Text := (lastStep? history).elim [] given

/-- The text that the end of a composition commits: its own one, or else the composed one. -/
def committed (history : List InputEvent) (text : Text) : Text :=
  if text = [] then draft history else text

/-- The bytes that an event writes after a history, in a window of some rows. All that is written in
a run is made up of these. -/
def share (history : List InputEvent) (rows : Nat) : InputEvent → List UInt8
  | .key press => if isComposing history then [] else (press.action rows).bytes
  | .paste text => encode text
  | .compositionStart => []
  | .compositionUpdate _ => []
  | .compositionEnd text => encode (committed history text)

/-- The bytes that each of some events writes, the first of them after a history. -/
def shares (history : List InputEvent) : List (InputEvent × Nat) → List (List UInt8)
  | [] => []
  | (event, rows) :: rest => event.share history rows :: shares (history ++ [event]) rest

variable {history : List InputEvent} {event : InputEvent}

theorem lastStep?_concat_of_isStep (step : event.isStep = true) :
    lastStep? (history ++ [event]) = some event := by
  rw [lastStep?, List.reverse_concat, List.find?_cons_of_pos step]

theorem lastStep?_concat_of_not_isStep (no_step : event.isStep = false) :
    lastStep? (history ++ [event]) = lastStep? history := by
  rw [lastStep?, List.reverse_concat, List.find?_cons_of_neg (by rw [no_step]; decide), lastStep?]

/-- An event is the last step of a history if no step comes after it. -/
theorem lastStep?_eq_some_iff :
    lastStep? history = some event ↔ event.isStep = true ∧
      ∃ before after, history = before ++ event :: after ∧ ∀ later ∈ after, later.isStep = false := by
  rw [lastStep?, List.find?_eq_some_iff_append]
  refine and_congr_right fun _ => ⟨?_, ?_⟩
  · rintro ⟨after, before, eq, no_step⟩
    refine ⟨before.reverse, after.reverse, ?_, fun later mem => ?_⟩
    · rw [← List.reverse_reverse history, eq]
      simp
    · simpa using no_step later (List.mem_reverse.mp mem)
  · rintro ⟨before, after, rfl, no_step⟩
    refine ⟨after.reverse, before.reverse, by simp, fun later mem => ?_⟩
    rw [no_step later (List.mem_reverse.mp mem), Bool.not_false]

/-- A composition is open after it was begun or given a text, as long as it was not ended. Other
events may come in between, and so may another beginning or text. -/
theorem isComposing_iff :
    isComposing history = true ↔ ∃ before event after, history = before ++ event :: after ∧
      event.opens = true ∧ ∀ later ∈ after, later.ends = false := by
  rw [isComposing, Option.any_eq_true]
  constructor
  · rintro ⟨event, last, opens⟩
    obtain ⟨-, before, after, eq, no_step⟩ := lastStep?_eq_some_iff.mp last
    exact ⟨before, event, after, eq, opens, fun later mem =>
      (Bool.or_eq_false_iff.mp (no_step later mem)).2⟩
  · rintro ⟨before, event, after, rfl, opens, open_still⟩
    have step : event.isStep = true := by rw [isStep, opens, Bool.true_or]
    -- A later step is no end, so the composition is open whichever step is the last one.
    have last : lastStep? (before ++ event :: after) =
        (after.reverse.find? isStep).or (some event) := by
      rw [lastStep?, List.reverse_append, List.reverse_cons, List.append_assoc, List.find?_append,
        List.singleton_append, List.find?_cons_of_pos step]
    rw [last]
    cases found : after.reverse.find? isStep with
    | none => exact ⟨event, rfl, opens⟩
    | some later =>
      have not_ended : later.ends = false :=
        open_still later (List.mem_reverse.mp (List.mem_of_find?_eq_some found))
      have reopens : later.isStep = true := List.find?_some found
      rw [isStep, not_ended, Bool.or_false] at reopens
      exact ⟨later, rfl, reopens⟩

/-- The text that is composed is the last one that was given, unless a composition was begun or
ended after that. This is said of a text that is not empty; the empty one is there before any was
given. -/
theorem draft_eq_iff {text : Text} (some_text : text ≠ []) :
    draft history = text ↔ ∃ before after, history = before ++ .compositionUpdate text :: after ∧
      ∀ later ∈ after, later.isStep = false := by
  -- No other step has a text, so the last one has given this text.
  have last_iff : draft history = text ↔ lastStep? history = some (.compositionUpdate text) := by
    unfold draft
    cases lastStep? history with
    | none => exact ⟨fun eq => absurd eq.symm some_text, fun eq => nomatch eq⟩
    | some event =>
      rw [Option.elim_some, Option.some_inj]
      cases event with
      | compositionUpdate other => rw [given, compositionUpdate.injEq]
      | _ => exact ⟨fun eq => absurd eq.symm some_text, fun eq => nomatch eq⟩
  have step : (compositionUpdate text).isStep = true := rfl
  rw [last_iff, lastStep?_eq_some_iff, and_iff_right step]

end InputEvent

/-! ### Runs -/

namespace Composer

open InputEvent (isComposing draft committed share shares)

/-- The composition after some events, each in a window of some rows. -/
def run (c : Composer) (events : List (InputEvent × Nat)) : Composer :=
  events.foldl (fun c event => (c.encode event.1 event.2).1) c

/-- What some events come to. -/
def actions (c : Composer) : List (InputEvent × Nat) → List InputAction
  | [] => []
  | (event, rows) :: rest => (c.encode event rows).2 :: (c.encode event rows).1.actions rest

/-- The composition that a history has come to, told from the history as a whole and not event by
event. -/
def ofHistory (history : List InputEvent) : Composer :=
  { active := isComposing history, text := draft history }

theorem ofHistory_concat_of_isStep {history : List InputEvent} {event : InputEvent}
    (step : event.isStep = true) :
    ofHistory (history ++ [event]) = { active := event.opens, text := event.given } := by
  rw [ofHistory, isComposing, draft, InputEvent.lastStep?_concat_of_isStep step]
  rfl

theorem ofHistory_concat_of_not_isStep {history : List InputEvent} {event : InputEvent}
    (no_step : event.isStep = false) : ofHistory (history ++ [event]) = ofHistory history := by
  rw [ofHistory, isComposing, draft, InputEvent.lastStep?_concat_of_not_isStep no_step]
  rfl

/-- What the end of a composition comes to after a history. -/
theorem encode_compositionEnd (history : List InputEvent) (text : Text) (rows : Nat) :
    (ofHistory history).encode (.compositionEnd text) rows =
      ({}, .ofBytes (Text.Utf8.encode (committed history text))) := by
  unfold Composer.encode finish committed
  cases text <;> rfl

/-- The composition after an event is the one of the history with that event. -/
theorem fst_encode_ofHistory (history : List InputEvent) (event : InputEvent) (rows : Nat) :
    ((ofHistory history).encode event rows).1 = ofHistory (history ++ [event]) := by
  cases event with
  | key press => rw [ofHistory_concat_of_not_isStep rfl]; rfl
  | paste text => rw [ofHistory_concat_of_not_isStep rfl]; rfl
  | compositionStart => rw [ofHistory_concat_of_isStep rfl]; rfl
  | compositionUpdate text => rw [ofHistory_concat_of_isStep rfl]; rfl
  | compositionEnd text => rw [ofHistory_concat_of_isStep rfl, encode_compositionEnd]; rfl

/-- An event writes its share. -/
theorem bytes_encode_ofHistory (history : List InputEvent) (event : InputEvent) (rows : Nat) :
    ((ofHistory history).encode event rows).2.bytes = event.share history rows := by
  cases event with
  | key press => exact apply_ite InputAction.bytes _ _ _
  | paste text => exact InputAction.bytes_ofBytes _
  | compositionStart => rfl
  | compositionUpdate text => rfl
  | compositionEnd text =>
    rw [encode_compositionEnd]
    exact InputAction.bytes_ofBytes _

/-- The composition after some events is the one of the whole history, and each of them writes its
share. -/
theorem run_ofHistory (history : List InputEvent) (events : List (InputEvent × Nat)) :
    (ofHistory history).run events = ofHistory (history ++ events.map Prod.fst) ∧
      ((ofHistory history).actions events).map InputAction.bytes = shares history events := by
  induction events generalizing history with
  | nil => exact ⟨by rw [List.map_nil, List.append_nil]; rfl, rfl⟩
  | cons first rest ih =>
    obtain ⟨event, rows⟩ := first
    obtain ⟨run_eq, actions_eq⟩ := ih (history ++ [event])
    refine ⟨?_, ?_⟩
    · rw [run, List.foldl_cons, fst_encode_ofHistory, ← run, run_eq, List.map_cons,
        List.append_assoc, List.singleton_append]
    · rw [actions, List.map_cons, bytes_encode_ofHistory, fst_encode_ofHistory, actions_eq, shares]

/-- After any events a composition is open if it was begun or given a text and was not ended since. Keys
are its own then. Pasted text is written as it is, open or not. The end of a composition commits its own
text, or else the last one that was given since the last beginning or end, and leaves nothing behind. So
what is written is, in this order, what was pasted, what was committed, and the keys that were pressed
while no composition was open. -/
theorem composition_run (events : List (InputEvent × Nat)) :
    let c := ({} : Composer).run events
    let history := events.map Prod.fst
    (c.active = true ↔ ∃ before event after, history = before ++ event :: after ∧
        event.opens = true ∧ ∀ later ∈ after, later.ends = false) ∧
      (c.active = true → ∀ press rows, c.encode (.key press) rows = (c, .ignore)) ∧
      (∀ text rows, text ≠ [] → c.encode (.paste text) rows = (c, .write (Text.Utf8.encode text))) ∧
      (∀ text rows, c.encode (.compositionEnd text) rows =
        ({}, if committed history text = [] then .ignore
          else .write (Text.Utf8.encode (committed history text)))) ∧
      (∀ text, text ≠ [] → (draft history = text ↔ ∃ before after,
        history = before ++ .compositionUpdate text :: after ∧
          ∀ later ∈ after, later.isStep = false)) ∧
      (({} : Composer).actions events).flatMap InputAction.bytes = (shares [] events).flatten := by
  intro c history
  have fresh : ofHistory [] = {} := rfl
  obtain ⟨run_eq, actions_eq⟩ := run_ofHistory [] events
  rw [fresh, List.nil_append] at run_eq
  rw [fresh] at actions_eq
  have c_eq : c = ofHistory history := run_eq
  refine ⟨?_, ?_, ?_, ?_, fun _ => InputEvent.draft_eq_iff, ?_⟩
  · rw [c_eq]
    exact InputEvent.isComposing_iff
  · intro active press rows
    show (c, if c.active then InputAction.ignore else press.action rows) = (c, .ignore)
    rw [if_pos active]
  · intro text rows some_text
    show (c, InputAction.ofBytes (Text.Utf8.encode text)) = _
    rw [InputAction.ofBytes_encode, if_neg some_text]
  · intro text rows
    rw [c_eq, encode_compositionEnd, InputAction.ofBytes_encode]
  · rw [List.flatMap_def, actions_eq]

/-- A text without a beginning, a key and a paste while it is composed, an end without a text, another
end, a key after that, and a composition that is begun anew before it ends. -/
theorem composition_run_restarted :
    let press : KeyPress := { key := .char 'a' }
    let open_events := [.compositionUpdate ['k'], .key press, .paste ['p'], .compositionUpdate ['か']]
    let events := open_events ++ [.compositionEnd [], .compositionEnd [], .key press,
      .compositionStart, .compositionUpdate ['x'], .compositionStart, .compositionEnd []]
    let inWindow := fun events : List InputEvent => events.map fun event => (event, 24)
    let c := ({} : Composer).run (inWindow open_events)
    c = { active := true, text := ['か'] } ∧ c.encode (.key press) 24 = (c, .ignore) ∧
      ['p'] ≠ [] ∧ c.encode (.paste ['p']) 24 = (c, .write "p".toUTF8.toList) ∧
      c.encode (.compositionEnd []) 24 = ({}, .write "か".toUTF8.toList) ∧
      (({} : Composer).actions (inWindow events)).flatMap InputAction.bytes =
        "pかa".toUTF8.toList := by
  intro press open_events events inWindow c
  obtain ⟨-, key, paste, ended, -, -⟩ := composition_run (inWindow open_events)
  obtain ⟨-, -, -, -, -, written⟩ := composition_run (inWindow events)
  refine ⟨by decide +kernel, key (by decide +kernel) press 24, by decide, ?_, ?_, ?_⟩
  · exact (paste ['p'] 24 (by decide)).trans (by decide +kernel)
  · exact (ended [] 24).trans (by decide +kernel)
  · exact written.trans (by decide +kernel)

end Composer

end TerminalSession
