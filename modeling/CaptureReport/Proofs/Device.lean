import CaptureReport.Device
import Mathlib.Data.List.Basic

/-!
# Changes of a device

A device is changed by **operations**: a channel is added, or the first channel with an index is
**edited** in one of its fields. This module says what every operation does, and how a device and
its driver stay in step over many of them.

The driver has a say in the enabled flag and the trigger condition of a channel. It is asked once if
an edit would change one of these, and not at all otherwise. An operation that fails leaves the
device as it was. So the requests that the driver has accepted are all it takes to know the flags
and conditions of all channels: **applied** one after another to the channels as they were at first,
together with those that were added, they give the channels as they are now, except for their
names. An index may stand for several channels; a channel that is added goes to the end of the list,
so that an index that meant a channel goes on meaning it.

## Main results

* `Device.perform_edit`: what an edit of a channel comes to, in one equation.
* `Device.perform_device_of_error`: an operation that fails changes nothing.
* `Device.step_replays`, `Device.after_replays`: the accepted requests of one operation, and of any
  number of them, account for what has become of the channels.
* `Device.operations_in_step`: what every operation does, and what the driver knows of it.
-/

namespace CaptureReport

/-! ### Operations -/

/-- A change of one of a channel's fields. -/
inductive Edit
  | enabled (state : Bool)
  | trigger (condition : Option String)
  | name (text : String)
  deriving DecidableEq, Repr

namespace Edit

/-- The channel with the field changed. -/
def on : Edit → Channel → Channel
  | .enabled state, c => { c with enabled := state }
  | .trigger condition, c => { c with trigger := condition }
  | .name text, c => { c with name := text }

/-- The setting that the field is to a driver, if it has a say in it. -/
def setting? : Edit → Option Setting
  | .enabled _ => some .enabled
  | .trigger _ => some .trigger
  | .name _ => none

/-- What a driver has to be asked before a channel is edited: nothing if the channel would not
change, or the field does not concern the driver. -/
def request? (edit : Edit) (c : Channel) : Option Request :=
  if edit.on c = c then none
  else edit.setting?.map fun setting => { setting, channel := edit.on c }

@[simp] theorem index_on (edit : Edit) (c : Channel) : (edit.on c).index = c.index := by
  cases edit <;> rfl

/-- An edit changes a channel exactly if it changes the value of the field. -/
theorem enabled_on_eq_self {state : Bool} {c : Channel} :
    (enabled state).on c = c ↔ c.enabled = state := by
  constructor
  · intro h
    exact (congrArg Channel.enabled h).symm
  · rintro rfl
    rfl

theorem trigger_on_eq_self {condition : Option String} {c : Channel} :
    (trigger condition).on c = c ↔ c.trigger = condition := by
  constructor
  · intro h
    exact (congrArg Channel.trigger h).symm
  · rintro rfl
    rfl

end Edit

/-- What can be done to a device's channels. -/
inductive Operation
  | add (channel : Channel)
  | edit (index : Nat) (edit : Edit)
  deriving DecidableEq, Repr

/-- The channel that an operation adds, if it adds one. -/
def Operation.added? : Operation → Option Channel
  | add channel => some channel
  | edit _ _ => none

namespace Device

def perform (d : Device) : Operation → Change
  | .add channel => .quiet (d.add channel)
  | .edit index (.enabled state) => d.enable index state
  | .edit index (.trigger condition) => d.setTrigger index condition
  | .edit index (.name text) => d.rename index text

/-- The device after several operations. One that fails does not keep the next from being tried. -/
def after (d : Device) (operations : List Operation) : Device :=
  operations.foldl (fun d operation => (d.perform operation).device) d

/-- All that the driver is asked in the course of several operations. -/
def history (d : Device) : List Operation → List Request
  | [] => []
  | operation :: rest =>
    (d.perform operation).requests ++ history (d.perform operation).device rest

end Device

/-! ### Requests, applied -/

/-- The requests that a driver accepts. -/
def Driver.accepted (driver : Driver) (requests : List Request) : List Request :=
  requests.filter fun request => (driver.answer request).isOk

/-- The edit that a request asks for. -/
def Request.edit (request : Request) : Edit :=
  match request.setting with
  | .enabled => .enabled request.channel.enabled
  | .trigger => .trigger request.channel.trigger

/-- The channels with the first one that has an index edited. -/
def editFirst (index : Nat) (edit : Edit) : List Channel → List Channel
  | [] => []
  | c :: rest => if c.index = index then edit.on c :: rest else c :: editFirst index edit rest

/-- The channels with a request **applied** to the first one that it can mean. -/
def Request.apply (channels : List Channel) (request : Request) : List Channel :=
  editFirst request.channel.index request.edit channels

/-- A channel but for its name. -/
def Channel.unnamed (c : Channel) : Channel :=
  { c with name := "" }

section Applying

variable {before after : List Channel} {c : Channel}

/-- The channel that is edited is the first one with its index. -/
theorem editFirst_of_first (hfirst : ∀ b ∈ before, b.index ≠ c.index) (edit : Edit) :
    editFirst c.index edit (before ++ c :: after) = before ++ edit.on c :: after := by
  induction before with
  | nil => exact if_pos rfl
  | cons b before ih =>
    have hb : b.index ≠ c.index := hfirst b List.mem_cons_self
    rw [List.cons_append, editFirst, if_neg hb, ih fun b hb => hfirst b (List.mem_cons_of_mem _ hb),
      List.cons_append]

/-- A request is for the edit that it is made for. -/
theorem apply_of_request? {edit : Edit} {request : Request} (h : edit.request? c = some request)
    (channels : List Channel) : request.apply channels = editFirst c.index edit channels := by
  rw [Edit.request?] at h
  split at h
  · cases h
  · cases edit with
    | enabled state =>
      obtain rfl := Option.some.inj h
      rfl
    | trigger condition =>
      obtain rfl := Option.some.inj h
      rfl
    | name text => cases h

/-- An edit about which no driver has to be asked changes the name at most. -/
theorem unnamed_on_of_request?_eq_none {edit : Edit} (h : edit.request? c = none) :
    (edit.on c).unnamed = c.unnamed := by
  rw [Edit.request?] at h
  split at h
  · rename_i hsame
    rw [hsame]
  · cases edit with
    | enabled state => cases h
    | trigger condition => cases h
    | name text => rfl

/-- Names do not matter to where a request is applied and what it does there. -/
theorem map_unnamed_editFirst {channels channels' : List Channel}
    (h : channels.map Channel.unnamed = channels'.map Channel.unnamed) (index : Nat) (edit : Edit) :
    (editFirst index edit channels).map Channel.unnamed
      = (editFirst index edit channels').map Channel.unnamed := by
  induction channels generalizing channels' with
  | nil =>
    obtain rfl : channels' = [] := List.map_eq_nil_iff.mp h.symm
    rfl
  | cons c channels ih =>
    cases channels' with
    | nil => cases h
    | cons c' channels' =>
      obtain ⟨hhead, htail⟩ := List.cons.inj h
      have hindex : c.index = c'.index := (congrArg Channel.index hhead :)
      rw [editFirst, editFirst, hindex]
      split
      · have hon : (edit.on c).unnamed = (edit.on c').unnamed := by
          cases c
          cases c'
          cases hhead
          cases edit <;> rfl
        rw [List.map_cons, List.map_cons, hon, htail]
      · rw [List.map_cons, List.map_cons, hhead, ih htail]

theorem map_unnamed_foldl_apply {channels channels' : List Channel}
    (h : channels.map Channel.unnamed = channels'.map Channel.unnamed) (requests : List Request) :
    (requests.foldl Request.apply channels).map Channel.unnamed
      = (requests.foldl Request.apply channels').map Channel.unnamed := by
  induction requests generalizing channels channels' with
  | nil => exact h
  | cons request requests ih => exact ih (map_unnamed_editFirst h _ _)

end Applying

/-! ### What an operation does -/

namespace Device

variable {d : Device} {before after : List Channel} {c : Channel} {index : Nat}

/-- An index that no channel has means none. -/
theorem channel?_eq_none (hnone : ∀ c ∈ d.channels, c.index ≠ index) : d.channel? index = none := by
  rw [channel?, List.find?_eq_none]
  intro c hc
  simpa using hnone c hc

/-- An index means the first channel that has it. -/
theorem channel?_of_first (hsplit : d.channels = before ++ c :: after)
    (hfirst : ∀ b ∈ before, b.index ≠ c.index) : d.channel? c.index = some c := by
  have hbefore : before.find? (·.index = c.index) = none := by
    rw [List.find?_eq_none]
    intro b hb
    simpa using hfirst b hb
  rw [channel?, hsplit, List.find?_append, hbefore]
  simp

/-- An index is one that no channel has, or it means a first channel. -/
theorem index_cases (d : Device) (index : Nat) :
    (∀ c ∈ d.channels, c.index ≠ index) ∨
      ∃ before c after, d.channels = before ++ c :: after ∧ c.index = index ∧
        ∀ b ∈ before, b.index ≠ c.index := by
  cases hfound : d.channel? index with
  | none =>
    refine .inl fun c hc => ?_
    simpa using List.find?_eq_none.mp hfound c hc
  | some c =>
    obtain ⟨hindex, before, after, hsplit, hbefore⟩ := List.find?_eq_some_iff_append.mp hfound
    have hindex' : c.index = index := by simpa using hindex
    refine .inr ⟨before, c, after, hsplit, hindex', fun b hb => ?_⟩
    rw [hindex']
    simpa using hbefore b hb

theorem replaceFirst_of_first {channel : Channel} (hindex : channel.index = c.index)
    (hfirst : ∀ b ∈ before, b.index ≠ c.index) :
    replaceFirst channel (before ++ c :: after) = before ++ channel :: after := by
  induction before with
  | nil => exact if_pos hindex.symm
  | cons b before ih =>
    have hb : b.index ≠ channel.index := hindex ▸ hfirst b List.mem_cons_self
    rw [List.cons_append, replaceFirst, if_neg hb,
      ih fun b hb => hfirst b (List.mem_cons_of_mem _ hb), List.cons_append]

theorem replace_on (hsplit : d.channels = before ++ c :: after)
    (hfirst : ∀ b ∈ before, b.index ≠ c.index) (edit : Edit) :
    d.replace (edit.on c) = { d with channels := before ++ edit.on c :: after } := by
  rw [replace, hsplit, replaceFirst_of_first (edit.index_on c) hfirst]

/-- An operation on an index that no channel has is refused, and the driver is not asked. -/
theorem perform_edit_of_unknown (hnone : ∀ c ∈ d.channels, c.index ≠ index) (edit : Edit) :
    d.perform (.edit index edit) = d.noChannel index := by
  have hfound := channel?_eq_none hnone
  cases edit with
  | enabled state => rw [perform, enable, hfound]
  | trigger condition => rw [perform, setTrigger, hfound]
  | name text => rw [perform, rename, hfound]

/-- **What an edit of a channel comes to.** The driver, if there is one and it has to be asked,
decides; else the edit takes place. -/
theorem perform_edit (hsplit : d.channels = before ++ c :: after)
    (hfirst : ∀ b ∈ before, b.index ≠ c.index) (edit : Edit) :
    d.perform (.edit c.index edit) =
      match edit.request? c with
      | none => .quiet { d with channels := before ++ edit.on c :: after }
      | some request => d.propose c request.channel request.setting := by
  have hfound := channel?_of_first hsplit hfirst
  have hsame : edit.on c = c → { d with channels := before ++ edit.on c :: after } = d := by
    intro h
    rw [h, ← hsplit]
  cases edit with
  | enabled state =>
    rw [perform, enable, hfound, Edit.request?]
    simp only [Edit.enabled_on_eq_self] at hsame ⊢
    by_cases h : c.enabled = state
    · simp only [if_pos h, hsame h]
    · simp only [if_neg h, Edit.setting?, Option.map_some]
      rfl
  | trigger condition =>
    rw [perform, setTrigger, hfound, Edit.request?]
    simp only [Edit.trigger_on_eq_self] at hsame ⊢
    by_cases h : c.trigger = condition
    · simp only [if_pos h, hsame h]
    · simp only [if_neg h, Edit.setting?, Option.map_some]
      rfl
  | name text =>
    have hrequest : (Edit.name text).request? c = none := by
      rw [Edit.request?]
      split <;> rfl
    rw [perform, rename, hfound, hrequest, ← replace_on hsplit hfirst]
    rfl

theorem requests_propose (d : Device) (old new : Channel) (setting : Setting) :
    (d.propose old new setting).requests
      = if d.driver.isSome then [{ setting, channel := new }] else [] := by
  rw [propose]
  cases d.driver with
  | none => rfl
  | some driver =>
    cases hanswer : driver.answer { setting, channel := new } <;> simp [hanswer]

theorem result_propose (d : Device) (old new : Channel) (setting : Setting) :
    (d.propose old new setting).result
      = match d.driver with
        | none => .ok ()
        | some driver => driver.answer { setting, channel := new } := by
  rw [propose]
  cases d.driver with
  | none => rfl
  | some driver =>
    cases hanswer : driver.answer { setting, channel := new } <;> simp [hanswer]

theorem propose_device_of_ok {old new : Channel} {setting : Setting}
    (h : (d.propose old new setting).result = .ok ()) :
    (d.propose old new setting).device = d.replace new := by
  rw [propose] at h ⊢
  cases hdriver : d.driver with
  | none => rfl
  | some driver =>
    cases hanswer : driver.answer { setting, channel := new } with
    | ok _ => simp [hanswer]
    | error refusal => simp [hdriver, hanswer] at h

/-- What the driver is asked about an edit. -/
theorem requests_perform_edit (hsplit : d.channels = before ++ c :: after)
    (hfirst : ∀ b ∈ before, b.index ≠ c.index) (edit : Edit) :
    (d.perform (.edit c.index edit)).requests
      = if d.driver.isSome then (edit.request? c).toList else [] := by
  rw [perform_edit hsplit hfirst]
  cases edit.request? c with
  | none => simp [Change.quiet]
  | some request => exact requests_propose d c request.channel request.setting

/-- An edit succeeds unless the driver refuses it. -/
theorem result_perform_edit (hsplit : d.channels = before ++ c :: after)
    (hfirst : ∀ b ∈ before, b.index ≠ c.index) (edit : Edit) :
    (d.perform (.edit c.index edit)).result
      = match d.driver, edit.request? c with
        | some driver, some request => driver.answer request
        | _, _ => .ok () := by
  rw [perform_edit hsplit hfirst]
  cases edit.request? c with
  | none => cases d.driver <;> rfl
  | some request => cases hdriver : d.driver <;> simp [result_propose, hdriver]

/-- The request for an edit shows the channel as it would be. -/
theorem channel_of_request? {edit : Edit} {request : Request}
    (h : edit.request? c = some request) : request.channel = edit.on c := by
  rw [Edit.request?] at h
  split at h
  · cases h
  · obtain ⟨setting, -, rfl⟩ := Option.map_eq_some_iff.mp h
    rfl

/-- An edit that succeeds changes its field of the first channel with the index, and nothing
else. -/
theorem perform_edit_device_of_ok (hsplit : d.channels = before ++ c :: after)
    (hfirst : ∀ b ∈ before, b.index ≠ c.index) {edit : Edit}
    (h : (d.perform (.edit c.index edit)).result = .ok ()) :
    (d.perform (.edit c.index edit)).device
      = { d with channels := before ++ edit.on c :: after } := by
  rw [perform_edit hsplit hfirst] at h ⊢
  cases hrequest : edit.request? c with
  | none => rfl
  | some request =>
    rw [hrequest] at h
    rw [← replace_on hsplit hfirst, ← channel_of_request? hrequest]
    exact propose_device_of_ok h

/-- **An operation that fails changes nothing.** -/
theorem perform_device_of_error {operation : Operation} {refusal : Refusal}
    (h : (d.perform operation).result = .error refusal) : (d.perform operation).device = d := by
  cases operation with
  | add channel => cases h
  | edit index edit =>
    rcases d.index_cases index with hnone | ⟨before, c, after, hsplit, rfl, hfirst⟩
    · rw [perform_edit_of_unknown hnone]
      rfl
    · rw [perform_edit hsplit hfirst] at h ⊢
      cases hrequest : edit.request? c with
      | none =>
        rw [hrequest] at h
        cases h
      | some request =>
        rw [hrequest] at h
        have hindex : request.channel.index = c.index := by
          rw [channel_of_request? hrequest, edit.index_on]
        exact propose_device_of_error hindex (channel?_of_first hsplit hfirst) h

theorem driver_perform (d : Device) (operation : Operation) :
    (d.perform operation).device.driver = d.driver := by
  cases hresult : (d.perform operation).result with
  | error refusal => rw [perform_device_of_error hresult]
  | ok done =>
    cases operation with
    | add channel => rfl
    | edit index edit =>
      rcases d.index_cases index with hnone | ⟨before, c, after, hsplit, rfl, hfirst⟩
      · rw [perform_edit_of_unknown hnone]
        rfl
      · rw [perform_edit_device_of_ok hsplit hfirst hresult]

/-! ### Replaying the requests -/

/-- **One operation, replayed.** Applied to the channels as they were, and to the one that is added,
the requests that are accepted give the channels as they are afterwards, whatever channels stand
behind them. -/
theorem step_replays {driver : Driver} (hdriver : d.driver = some driver) (operation : Operation)
    (more : List Channel) :
    ((driver.accepted (d.perform operation).requests).foldl Request.apply
        (d.channels ++ operation.added?.toList ++ more)).map Channel.unnamed
      = ((d.perform operation).device.channels ++ more).map Channel.unnamed := by
  cases operation with
  | add channel => rfl
  | edit index edit =>
    rw [Operation.added?, Option.toList_none, List.append_nil]
    rcases d.index_cases index with hnone | ⟨before, c, after, hsplit, rfl, hfirst⟩
    · rw [perform_edit_of_unknown hnone]
      rfl
    · have hrequests := requests_perform_edit hsplit hfirst edit
      have hresult := result_perform_edit hsplit hfirst edit
      rw [hdriver, Option.isSome_some, if_pos rfl] at hrequests
      rw [hdriver] at hresult
      rw [hrequests]
      cases hrequest : edit.request? c with
      | none =>
        rw [hrequest] at hresult
        rw [perform_edit_device_of_ok hsplit hfirst hresult, hsplit]
        simp [Driver.accepted, unnamed_on_of_request?_eq_none hrequest]
      | some request =>
        rw [hrequest] at hresult
        cases hanswer : driver.answer request with
        | error refusal =>
          have hrefused : driver.accepted [request] = [] := by
            simp [Driver.accepted, hanswer, Except.isOk, Except.toBool]
          rw [perform_device_of_error (hresult.trans hanswer), Option.toList_some, hrefused]
          rfl
        | ok done =>
          have haccepted : driver.accepted [request] = [request] := by
            simp [Driver.accepted, hanswer, Except.isOk, Except.toBool]
          rw [perform_edit_device_of_ok hsplit hfirst (hresult.trans hanswer), hsplit,
            Option.toList_some, haccepted, List.foldl_cons, List.foldl_nil,
            apply_of_request? hrequest, List.append_assoc, List.cons_append,
            editFirst_of_first hfirst, List.append_assoc, List.cons_append]

/-- **Any number of operations, replayed.** -/
theorem after_replays {driver : Driver} (hdriver : d.driver = some driver)
    (operations : List Operation) :
    ((driver.accepted (d.history operations)).foldl Request.apply
        (d.channels ++ operations.filterMap Operation.added?)).map Channel.unnamed
      = (d.after operations).channels.map Channel.unnamed := by
  induction operations generalizing d with
  | nil => rw [List.filterMap_nil, List.append_nil]; rfl
  | cons operation operations ih =>
    have hnext : (d.perform operation).device.driver = some driver := by
      rw [driver_perform, hdriver]
    have hadded : (operation :: operations).filterMap Operation.added?
        = operation.added?.toList ++ operations.filterMap Operation.added? := by
      rw [List.filterMap_cons]
      cases operation.added? <;> rfl
    -- Channels that are added later stand behind all others, where this operation does not reach.
    have hstep := step_replays hdriver operation (operations.filterMap Operation.added?)
    rw [history, Driver.accepted, List.filter_append, List.foldl_append, hadded,
      ← List.append_assoc]
    exact (map_unnamed_foldl_apply hstep _).trans (ih hnext)

/-- **Operations are transactions, and the driver is in step with them.** One that fails changes
nothing; a channel is added at the end; an index that no channel has is refused; and an edit of the
first channel with an index asks the driver once if it would change a setting, takes place unless
the driver refuses, and changes its own field alone. So with a driver, the requests that it accepts
give the enabled flag and the trigger condition of every channel. -/
theorem operations_in_step (d : Device) :
    (∀ operation refusal, (d.perform operation).result = .error refusal →
      (d.perform operation).device = d) ∧
    (∀ channel, d.perform (.add channel) = .quiet { d with channels := d.channels ++ [channel] }) ∧
    (∀ index edit, (∀ c ∈ d.channels, c.index ≠ index) →
      d.perform (.edit index edit)
        = { device := d, result := .error (.unknownChannel index), requests := [] } ∧
      (Refusal.unknownChannel index).kind = .argument) ∧
    (∀ before c after edit, d.channels = before ++ c :: after →
      (∀ b ∈ before, b.index ≠ c.index) →
      let change := d.perform (.edit c.index edit)
      change.requests = (if d.driver.isSome then (edit.request? c).toList else []) ∧
      change.result = (match d.driver, edit.request? c with
        | some driver, some request => driver.answer request
        | _, _ => .ok ()) ∧
      (change.result = .ok () →
        change.device = { d with channels := before ++ edit.on c :: after })) ∧
    ∀ driver, d.driver = some driver → ∀ operations,
      (d.after operations).channels.map Channel.unnamed
        = ((driver.accepted (d.history operations)).foldl Request.apply
            (d.channels ++ operations.filterMap Operation.added?)).map Channel.unnamed := by
  refine ⟨?_, ?_, ?_, ?_, ?_⟩
  · intro operation refusal h
    exact perform_device_of_error h
  · intro channel
    rfl
  · intro index edit hnone
    exact ⟨perform_edit_of_unknown hnone edit, rfl⟩
  · intro before c after edit hsplit hfirst
    exact ⟨requests_perform_edit hsplit hfirst edit, result_perform_edit hsplit hfirst edit,
      perform_edit_device_of_ok hsplit hfirst⟩
  · intro driver hdriver operations
    exact (after_replays hdriver operations).symm

/-- A device with an index that stands for two channels, before and after another channel with that
index is added, and a driver that refuses the settings of channels above the first index. -/
theorem operations_in_step_refused :
    let driver := Driver.limited none none 1 [.enabled, .trigger]
    let a : Channel := { index := 0, name := "A" }
    let b : Channel := { index := 0, name := "B" }
    let c : Channel := { index := 3, name := "C" }
    let d : Device := { channels := [a, b, c], driver := some driver }
    let operations : List Operation :=
      [.edit 0 (.enabled false), .edit 3 (.enabled false), .edit 7 (.trigger none),
        .edit 3 (.name "X"), .add { index := 0, name := "D" }, .edit 0 (.enabled false),
        .edit 0 (.trigger (some "r"))]
    let off : Channel := { a with enabled := false }
    (d.perform (.edit 3 (.enabled false))).result = .error (.unsupported "channel 3") ∧
      (d.perform (.edit 3 (.enabled false))).device = d ∧
      d.perform (.add b) = .quiet { d with channels := [a, b, c, b] } ∧
      (∀ c ∈ d.channels, c.index ≠ 7) ∧
      d.perform (.edit 7 (.trigger none))
        = { device := d, result := .error (.unknownChannel 7), requests := [] } ∧
      d.channels = [] ++ a :: [b, c] ∧ (∀ b ∈ ([] : List Channel), b.index ≠ a.index) ∧
      (d.perform (.edit 0 (.enabled false))).requests = [{ setting := .enabled, channel := off }] ∧
      (d.perform (.edit 0 (.enabled false))).result = .ok () ∧
      (d.perform (.edit 0 (.enabled false))).device = { d with channels := [off, b, c] } ∧
      d.driver = some driver ∧
      driver.accepted (d.history operations)
        = [{ setting := .enabled, channel := off },
            { setting := .trigger, channel := { off with trigger := some "r" } }] ∧
      (d.after operations).channels.map Channel.unnamed
        = ((driver.accepted (d.history operations)).foldl Request.apply
            [a, b, c, { index := 0, name := "D" }]).map Channel.unnamed := by
  intro driver a b c d operations off
  obtain ⟨herror, hadd, hunknown, hedit, hreplay⟩ := operations_in_step d
  have hrefused : (d.perform (.edit 3 (.enabled false))).result
      = .error (.unsupported "channel 3") := by decide
  have hnone : ∀ c ∈ d.channels, c.index ≠ 7 := by decide
  have hfirst : ∀ b ∈ ([] : List Channel), b.index ≠ a.index := by decide
  obtain ⟨hrequests, hresult, hdevice⟩ := hedit [] a [b, c] (.enabled false) rfl hfirst
  have haccepted : driver.accepted (d.history operations)
      = [{ setting := .enabled, channel := off },
          { setting := .trigger, channel := { off with trigger := some "r" } }] := by decide
  exact ⟨hrefused, herror _ _ hrefused, hadd b, hnone, (hunknown 7 _ hnone).1, rfl, hfirst,
    hrequests, hresult, hdevice hresult, rfl, haccepted, hreplay driver rfl operations⟩

end Device

end CaptureReport
