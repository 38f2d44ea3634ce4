import CaptureReport.Proofs.Device
import CaptureReport.Selection

/-!
# Selections, applied

A channel **follows** a selection if it is switched to what the selection says of its index. To
apply a selection is to go through the channels of a device in order and have each of them follow.
A channel is looked up by its index again, and an index means the first channel that has it. So it
is only the **firsts**, one channel for each index, that are made to follow; the others stay as they
are.

The driver is asked about the firsts that do not follow yet, in order, and its first refusal ends
it. The channels in front have been dealt with by then, and stay so; the channel that was refused
and those behind it are as they were.

## Main results

* `Device.enable_cases`: what it comes to that one more channel is to follow.
* `Device.selectEach_cases`, `Device.select_cases`: what it comes to that all of them are.
* `Device.select_again`: a selection that has been applied can be applied again to no effect.
* `Device.select_stops_at_refusal`: where no two channels have the same index, what a refusal leaves
  behind, and what the driver sees.
-/

namespace CaptureReport

/-- A channel but for whether it is enabled. -/
def Channel.unswitched (c : Channel) : Channel :=
  { c with enabled := false }

/-! ### Firsts -/

/-- The channels that are the first with their index, where those in front have the indices
`seen`. -/
def firsts : List Nat → List Channel → List Channel
  | _, [] => []
  | seen, c :: rest =>
    if c.index ∈ seen then firsts (seen ++ [c.index]) rest
    else c :: firsts (seen ++ [c.index]) rest

namespace Selection

/-- The channel, switched to what the selection says. -/
def follow (s : Selection) (c : Channel) : Channel :=
  { c with enabled := s.includes c.index }

/-- What a driver is asked before a channel follows. -/
def request (s : Selection) (c : Channel) : Request where
  setting := .enabled
  channel := s.follow c

/-- All that a driver is asked before channels follow: a channel that does so already needs no
asking. -/
def requests (s : Selection) (channels : List Channel) : List Request :=
  (channels.filter fun c => c.enabled ≠ s.includes c.index).map s.request

/-- The channel as it is left behind others with the indices `seen`. -/
def settle (s : Selection) (seen : List Nat) (c : Channel) : Channel :=
  if c.index ∈ seen then c else s.follow c

/-- The channels of which the firsts follow. -/
def settleAll (s : Selection) : List Nat → List Channel → List Channel
  | _, [] => []
  | seen, c :: rest => s.settle seen c :: settleAll s (seen ++ [c.index]) rest

/-- The first channel with each index follows. -/
def Settled (s : Selection) (channels : List Channel) : Prop :=
  ∀ index first, channels.find? (·.index = index) = some first →
    first.enabled = s.includes index

variable {s : Selection} {c : Channel} {channels : List Channel} {seen : List Nat}

theorem follow_eq_self (h : c.enabled = s.includes c.index) : s.follow c = c := by
  rw [follow, ← h]

@[simp] theorem index_settle (s : Selection) (seen : List Nat) (c : Channel) :
    (s.settle seen c).index = c.index := by
  rw [settle]
  split <;> rfl

@[simp] theorem unswitched_settle (s : Selection) (seen : List Nat) (c : Channel) :
    (s.settle seen c).unswitched = c.unswitched := by
  rw [settle]
  split <;> rfl

theorem requests_append (s : Selection) (channels more : List Channel) :
    s.requests (channels ++ more) = s.requests channels ++ s.requests more := by
  rw [requests, List.filter_append, List.map_append, requests, requests]

theorem firsts_append (seen : List Nat) (channels more : List Channel) :
    firsts seen (channels ++ more)
      = firsts seen channels ++ firsts (seen ++ channels.map Channel.index) more := by
  induction channels generalizing seen with
  | nil => rw [List.map_nil, List.append_nil]; rfl
  | cons c rest ih =>
    rw [List.cons_append, firsts, firsts, ih, List.map_cons, List.append_assoc,
      List.singleton_append]
    split <;> rfl

/-- Nothing but the switches of the channels is touched. -/
theorem map_unswitched_settleAll (s : Selection) (seen : List Nat) (channels : List Channel) :
    (s.settleAll seen channels).map Channel.unswitched = channels.map Channel.unswitched := by
  induction channels generalizing seen with
  | nil => rfl
  | cons c rest ih => rw [settleAll, List.map_cons, ih, unswitched_settle, List.map_cons]

/-! ### No two channels with the same index -/

theorem nodup_seen_cons {rest : List Channel}
    (h : (seen ++ (c :: rest).map Channel.index).Nodup) :
    c.index ∉ seen ∧ (seen ++ [c.index] ++ rest.map Channel.index).Nodup := by
  obtain ⟨-, -, hdisjoint⟩ := List.nodup_append.mp h
  refine ⟨fun hmem => hdisjoint _ hmem _ List.mem_cons_self rfl, ?_⟩
  rwa [List.append_assoc, List.singleton_append]

/-- Every channel is a first. -/
theorem firsts_of_nodup (h : (seen ++ channels.map Channel.index).Nodup) :
    firsts seen channels = channels := by
  induction channels generalizing seen with
  | nil => rfl
  | cons c rest ih =>
    obtain ⟨hnew, hrest⟩ := nodup_seen_cons h
    rw [firsts, if_neg hnew, ih hrest]

/-- So every channel follows. -/
theorem settleAll_of_nodup (h : (seen ++ channels.map Channel.index).Nodup) :
    s.settleAll seen channels = channels.map s.follow := by
  induction channels generalizing seen with
  | nil => rfl
  | cons c rest ih =>
    obtain ⟨hnew, hrest⟩ := nodup_seen_cons h
    rw [settleAll, settle, if_neg hnew, ih hrest, List.map_cons]

/-! ### What has been dealt with -/

theorem Settled.nil : s.Settled [] := by
  intro index first hfirst
  cases hfirst

/-- One more channel behind settled ones does no harm if it follows, or is not a first. -/
theorem Settled.snoc (h : s.Settled channels)
    (hc : c.index ∈ channels.map Channel.index ∨ c.enabled = s.includes c.index) :
    s.Settled (channels ++ [c]) := by
  intro index first hfirst
  rw [List.find?_append] at hfirst
  cases hfound : channels.find? (·.index = index) with
  | some b =>
    rw [hfound, Option.some_or, Option.some.injEq] at hfirst
    exact hfirst ▸ h index b hfound
  | none =>
    rw [hfound, Option.none_or] at hfirst
    obtain ⟨hindex, rfl⟩ : c.index = index ∧ c = first := by simpa using hfirst
    have hnone : c.index ∉ channels.map Channel.index := by
      intro hmem
      obtain ⟨b, hb, heq⟩ := List.mem_map.mp hmem
      simpa [heq, hindex] using List.find?_eq_none.mp hfound b hb
    rw [← hindex]
    exact hc.resolve_left hnone

theorem Settled.snoc_settle (h : s.Settled channels) :
    s.Settled (channels ++ [s.settle (channels.map Channel.index) c]) := by
  refine h.snoc ?_
  rw [index_settle]
  by_cases hmem : c.index ∈ channels.map Channel.index
  · exact .inl hmem
  · refine .inr ?_
    rw [settle, if_neg hmem]
    rfl

/-- The channels of which the firsts follow are settled. -/
theorem Settled.append_settleAll (h : s.Settled channels) (more : List Channel) :
    s.Settled (channels ++ s.settleAll (channels.map Channel.index) more) := by
  induction more generalizing channels with
  | nil => exact (List.append_nil channels).symm ▸ h
  | cons c more ih =>
    have hnext := ih (h.snoc_settle (c := c))
    rw [List.map_append, List.map_singleton, index_settle, List.append_assoc,
      List.singleton_append] at hnext
    exact hnext

end Selection

/-! ### The driver's say -/

namespace Device

/-- The device with other channels. -/
def withChannels (d : Device) (channels : List Channel) : Device :=
  { d with channels }

/-- The driver, if there is one, accepts a request. -/
def Accepts (d : Device) (request : Request) : Prop :=
  ∀ driver ∈ d.driver, driver.answer request = .ok ()

/-- There is a driver, and it refuses a request. -/
def Refuses (d : Device) (request : Request) (refusal : Refusal) : Prop :=
  ∃ driver ∈ d.driver, driver.answer request = .error refusal

/-- What reaches the driver of requests: all of them, if there is one. -/
def asked (d : Device) (requests : List Request) : List Request :=
  if d.driver.isSome then requests else []

section WithChannels

variable (d : Device) (channels more : List Channel)

@[simp] theorem channels_withChannels : (d.withChannels channels).channels = channels := rfl

@[simp] theorem withChannels_withChannels :
    (d.withChannels channels).withChannels more = d.withChannels more := rfl

@[simp] theorem withChannels_channels : d.withChannels d.channels = d := rfl

@[simp] theorem refuses_withChannels : (d.withChannels channels).Refuses = d.Refuses := rfl

@[simp] theorem asked_withChannels : (d.withChannels channels).asked = d.asked := rfl

end WithChannels

theorem asked_append (d : Device) (requests more : List Request) :
    d.asked (requests ++ more) = d.asked requests ++ d.asked more := by
  rw [asked, asked, asked]
  split <;> rfl

@[simp] theorem asked_nil (d : Device) : d.asked [] = [] := ite_self []

theorem Refuses.asked_eq {d : Device} {request : Request} {refusal : Refusal}
    (h : d.Refuses request refusal) (requests : List Request) : d.asked requests = requests := by
  obtain ⟨driver, hdriver, -⟩ := h
  rw [asked, Option.mem_def.mp hdriver]
  rfl

theorem Refuses.not_accepts {d : Device} {request : Request} {refusal : Refusal}
    (h : d.Refuses request refusal) : ¬ d.Accepts request := by
  obtain ⟨driver, hdriver, hanswer⟩ := h
  intro haccepts
  have haccepted := haccepts driver hdriver
  rw [hanswer] at haccepted
  cases haccepted

/-- A driver accepts or refuses. -/
theorem accepts_or_refuses (d : Device) (request : Request) :
    d.Accepts request ∨ ∃ refusal, d.Refuses request refusal := by
  cases hdriver : d.driver with
  | none => exact .inl fun driver hmem => by simp [hdriver] at hmem
  | some driver =>
    cases hanswer : driver.answer request with
    | ok done =>
      refine .inl fun other hmem => ?_
      obtain rfl : driver = other := Option.some.inj (hdriver ▸ Option.mem_def.mp hmem)
      exact hanswer
    | error refusal => exact .inr ⟨refusal, driver, hdriver, hanswer⟩

/-- What is accepted takes place. -/
theorem propose_of_accepts {d : Device} {old new : Channel} {setting : Setting}
    (h : d.Accepts { setting, channel := new }) :
    d.propose old new setting
      = { device := d.replace new, result := .ok (),
          requests := d.asked [{ setting, channel := new }] } := by
  rw [propose, asked]
  cases hdriver : d.driver with
  | none => rfl
  | some driver =>
    have hanswer := h driver hdriver
    simp [hanswer]

/-- What is refused does not. -/
theorem propose_of_refuses {d : Device} {old new : Channel} {setting : Setting}
    {refusal : Refusal} (hindex : new.index = old.index) (hold : d.channel? old.index = some old)
    (h : d.Refuses { setting, channel := new } refusal) :
    d.propose old new setting
      = { device := d, result := .error refusal, requests := [{ setting, channel := new }] } := by
  obtain ⟨driver, hdriver, hanswer⟩ := h
  simp [propose, Option.mem_def.mp hdriver, hanswer, replace_back hindex hold]

/-! ### One more channel -/

variable {d : Device} {s : Selection} {before after rest : List Channel} {c : Channel}

theorem index_ne_of_first (hfirst : c.index ∉ before.map Channel.index) :
    ∀ b ∈ before, b.index ≠ c.index := by
  intro b hb heq
  exact hfirst (heq ▸ List.mem_map_of_mem hb)

/-- An index whose first channel follows is left alone. -/
theorem enable_of_settled (hsplit : d.channels = before ++ rest) (h : s.Settled before)
    {index : Nat} (hmem : index ∈ before.map Channel.index) :
    d.enable index (s.includes index) = .quiet d := by
  cases hfound : before.find? (·.index = index) with
  | none =>
    obtain ⟨b, hb, rfl⟩ := List.mem_map.mp hmem
    simpa using List.find?_eq_none.mp hfound b hb
  | some first =>
    have hfirst : d.channel? index = some first := by
      rw [channel?, hsplit, List.find?_append, hfound, Option.some_or]
    rw [enable, hfirst]
    exact if_pos (h index first hfound)

/-- A first that does not follow is put to the driver. -/
theorem enable_of_first (hsplit : d.channels = before ++ c :: after)
    (hfirst : c.index ∉ before.map Channel.index) (hmoves : c.enabled ≠ s.includes c.index) :
    d.enable c.index (s.includes c.index) = d.propose c (s.follow c) .enabled := by
  rw [enable, channel?_of_first hsplit (index_ne_of_first hfirst)]
  exact if_neg hmoves

/-- A channel that follows already is left alone, first or not. -/
theorem enable_of_follows (hsplit : d.channels = before ++ c :: after) (h : s.Settled before)
    (hfollows : c.enabled = s.includes c.index) :
    d.enable c.index (s.includes c.index) = .quiet d := by
  have hbehind : d.channels = (before ++ [c]) ++ after := by simpa using hsplit
  exact enable_of_settled hbehind (h.snoc (.inr hfollows)) (by simp)

/-- **One more channel is to follow.** Nothing is refused, and it does so if it is a first; or the
driver, asked about it, refuses, and the device is as it was. -/
theorem enable_cases (hsplit : d.channels = before ++ c :: after) (h : s.Settled before) :
    (d.enable c.index (s.includes c.index)
        = { device := d.withChannels (before ++ s.settle (before.map Channel.index) c :: after),
            result := .ok (),
            requests := d.asked (s.requests (firsts (before.map Channel.index) [c])) } ∧
      ∀ request ∈ s.requests (firsts (before.map Channel.index) [c]), d.Accepts request) ∨
    ∃ refusal, c.enabled ≠ s.includes c.index ∧ d.Refuses (s.request c) refusal ∧
      d.enable c.index (s.includes c.index)
        = { device := d, result := .error refusal, requests := [s.request c] } := by
  have hsame : d.withChannels (before ++ c :: after) = d := by
    rw [← hsplit, withChannels_channels]
  -- The driver comes in only where the channel is a first and does not follow yet.
  by_cases hmem : c.index ∈ before.map Channel.index
  · left
    have hquiet := enable_of_settled hsplit h hmem
    have hsettle : s.settle (before.map Channel.index) c = c := if_pos hmem
    have hfirsts : firsts (before.map Channel.index) [c] = [] := if_pos hmem
    simp [hquiet, hsettle, hfirsts, hsame, Selection.requests, Change.quiet]
  have hsettle : s.settle (before.map Channel.index) c = s.follow c := if_neg hmem
  have hfirsts : firsts (before.map Channel.index) [c] = [c] := if_neg hmem
  by_cases hfollows : c.enabled = s.includes c.index
  · left
    have hquiet := enable_of_follows hsplit h hfollows
    have hfollow := Selection.follow_eq_self hfollows
    simp [hquiet, hsettle, hfirsts, hfollow, hsame, hfollows, Selection.requests, Change.quiet]
  · have hpropose := enable_of_first (s := s) hsplit hmem hfollows
    have hrequests : s.requests [c] = [s.request c] := by simp [Selection.requests, hfollows]
    have hreplace : d.replace (s.follow c) = d.withChannels (before ++ s.follow c :: after) :=
      replace_on hsplit (index_ne_of_first hmem) (.enabled (s.includes c.index))
    rw [hsettle, hfirsts, hrequests, List.forall_mem_singleton, hpropose]
    rcases d.accepts_or_refuses (s.request c) with haccepts | ⟨refusal, hrefuses⟩
    · left
      rw [propose_of_accepts haccepts, hreplace]
      exact ⟨rfl, haccepts⟩
    · right
      have hold := channel?_of_first hsplit (index_ne_of_first hmem)
      exact ⟨refusal, hfollows, hrefuses, propose_of_refuses rfl hold hrefuses⟩

/-! ### All of them -/

theorem quiet_andThen (d : Device) (second : Device → Change) :
    (Change.quiet d).andThen second = second d := rfl

/-- **The channels are to follow, one after another.** Nothing is refused, and the firsts do so; or
the driver refuses one of them, those in front of it having been dealt with, and it and what stands
behind it are as they were. The induction is on the channels that are still to come; those in front
are settled. -/
theorem selectEach_cases (hsplit : d.channels = before ++ rest) (h : s.Settled before) :
    (selectEach s (rest.map Channel.index) d
        = { device := d.withChannels (before ++ s.settleAll (before.map Channel.index) rest),
            result := .ok (),
            requests := d.asked (s.requests (firsts (before.map Channel.index) rest)) } ∧
      ∀ request ∈ s.requests (firsts (before.map Channel.index) rest), d.Accepts request) ∨
    ∃ front c after refusal, rest = front ++ c :: after ∧ c.enabled ≠ s.includes c.index ∧
      d.Refuses (s.request c) refusal ∧
      (∀ request ∈ s.requests (firsts (before.map Channel.index) front), d.Accepts request) ∧
      selectEach s (rest.map Channel.index) d
        = { device := d.withChannels
              (before ++ s.settleAll (before.map Channel.index) front ++ c :: after),
            result := .error refusal,
            requests :=
              s.requests (firsts (before.map Channel.index) front) ++ [s.request c] } := by
  induction rest generalizing d before with
  | nil =>
    left
    have hsame : d.withChannels before = d := by
      rw [List.append_nil] at hsplit
      rw [← hsplit, withChannels_channels]
    simp [selectEach, Selection.settleAll, firsts, Selection.requests, Change.quiet, hsame]
  | cons c rest ih =>
    rw [List.map_cons, selectEach]
    rcases enable_cases hsplit h with ⟨hstep, haccepts⟩ | ⟨refusal, hmoves, hrefuses, hstep⟩
    · -- The channel joins those in front, which are settled again and have the same indices.
      have hsettled := h.snoc_settle (c := c)
      generalize hseen : before.map Channel.index = seen at hstep haccepts hsettled ⊢
      have hbehind : (before ++ [s.settle seen c]).map Channel.index = seen ++ [c.index] := by
        simp [hseen]
      have hnext : (d.withChannels (before ++ s.settle seen c :: rest)).channels
          = before ++ [s.settle seen c] ++ rest := by simp
      have hrequests : ∀ front, s.requests (firsts seen (c :: front))
          = s.requests (firsts seen [c]) ++ s.requests (firsts (seen ++ [c.index]) front) := by
        intro front
        rw [← Selection.requests_append]
        exact congrArg s.requests (Selection.firsts_append seen [c] front)
      have hrun := ih hnext hsettled
      rw [hbehind] at hrun
      rcases hrun with ⟨hrun, hmore⟩ |
        ⟨front, b, after, refusal, rfl, hmoves, hrefuses, hmore, hrun⟩
      · left
        rw [hrequests rest, hstep, Change.andThen, hrun]
        refine ⟨?_, List.forall_mem_append.mpr ⟨haccepts, hmore⟩⟩
        simp [asked_append, Selection.settleAll]
      · right
        refine ⟨c :: front, b, after, refusal, rfl, hmoves, hrefuses, ?_⟩
        rw [refuses_withChannels] at hrefuses
        rw [hrequests front, hstep, Change.andThen, hrun, hrefuses.asked_eq]
        refine ⟨List.forall_mem_append.mpr ⟨haccepts, hmore⟩, ?_⟩
        simp [Selection.settleAll]
    · right
      refine ⟨[], c, rest, refusal, rfl, hmoves, hrefuses, by simp [firsts, Selection.requests], ?_⟩
      have hsame : d.withChannels (before ++ c :: rest) = d := by
        rw [← hsplit, withChannels_channels]
      simp [hstep, Change.andThen, Selection.settleAll, firsts, Selection.requests, hsame]

/-- **A selection is applied**: nothing is refused, and the firsts follow; or the driver refuses one
of them, and it and what stands behind it are as they were. -/
theorem select_cases (d : Device) (s : Selection) :
    (d.select s
        = { device := d.withChannels (s.settleAll [] d.channels), result := .ok (),
            requests := d.asked (s.requests (firsts [] d.channels)) } ∧
      ∀ request ∈ s.requests (firsts [] d.channels), d.Accepts request) ∨
    ∃ before c after refusal, d.channels = before ++ c :: after ∧
      c.enabled ≠ s.includes c.index ∧ d.Refuses (s.request c) refusal ∧
      (∀ request ∈ s.requests (firsts [] before), d.Accepts request) ∧
      d.select s
        = { device := d.withChannels (s.settleAll [] before ++ c :: after),
            result := .error refusal,
            requests := s.requests (firsts [] before) ++ [s.request c] } := by
  have hsplit : d.channels = [] ++ d.channels := rfl
  exact selectEach_cases hsplit .nil

/-- What a selection says of other indices does not matter. -/
theorem selectEach_congr {other : Selection} {indices : List Nat}
    (h : ∀ index ∈ indices, other.includes index = s.includes index) :
    selectEach other indices d = selectEach s indices d := by
  induction indices generalizing d with
  | nil => rfl
  | cons index indices ih =>
    obtain ⟨hindex, hrest⟩ := List.forall_mem_cons.mp h
    rw [selectEach, selectEach, hindex, funext fun d => ih (d := d) hrest]

/-- Where the firsts follow, nothing is left to be done. -/
theorem selectEach_of_settled (h : s.Settled d.channels) {indices : List Nat}
    (hindices : ∀ index ∈ indices, index ∈ d.channels.map Channel.index) :
    selectEach s indices d = .quiet d := by
  induction indices with
  | nil => rfl
  | cons index indices ih =>
    obtain ⟨hindex, hrest⟩ := List.forall_mem_cons.mp hindices
    have hquiet : d.enable index (s.includes index) = .quiet d :=
      enable_of_settled (List.append_nil d.channels).symm h hindex
    rw [selectEach, hquiet, quiet_andThen, ih hrest]

/-- **A selection that has been applied** without a refusal can be applied again, and nothing comes
of it. -/
theorem select_again (h : (d.select s).result = .ok ()) :
    (d.select s).device.select s = .quiet (d.select s).device := by
  rcases d.select_cases s with ⟨hselect, -⟩ | ⟨before, c, after, refusal, -, -, -, -, hselect⟩
  · have hsettled : s.Settled (d.select s).device.channels := by
      rw [hselect]
      exact Selection.Settled.nil.append_settleAll d.channels
    exact selectEach_of_settled hsettled fun _ hindex => hindex
  · rw [hselect] at h
    cases h

/-- However it ends, nothing but the switches of the channels has been touched. -/
theorem map_unswitched_select (d : Device) (s : Selection) :
    (d.select s).device.channels.map Channel.unswitched = d.channels.map Channel.unswitched := by
  rcases d.select_cases s with ⟨hselect, -⟩ | ⟨before, c, after, refusal, hsplit, -, -, -, hselect⟩
  · rw [hselect]
    exact s.map_unswitched_settleAll [] d.channels
  · rw [hselect, channels_withChannels, hsplit, List.map_append, List.map_append,
      s.map_unswitched_settleAll]

/-- Where nothing is refused, the firsts follow. -/
theorem select_of_ok (h : (d.select s).result = .ok ()) :
    (d.select s).device = d.withChannels (s.settleAll [] d.channels) := by
  rcases d.select_cases s with ⟨hselect, -⟩ | ⟨before, c, after, refusal, -, -, -, -, hselect⟩
  · rw [hselect]
  · rw [hselect] at h
    cases h

/-! ### What a refusal leaves behind -/

/-- If no two channels have the same index, all of them are firsts. -/
theorem select_cases_of_nodup (hdistinct : (d.channels.map Channel.index).Nodup) :
    (d.select s
        = { device := d.withChannels (d.channels.map s.follow), result := .ok (),
            requests := d.asked (s.requests d.channels) } ∧
      ∀ request ∈ s.requests d.channels, d.Accepts request) ∨
    ∃ before c after refusal, d.channels = before ++ c :: after ∧
      c.enabled ≠ s.includes c.index ∧ d.Refuses (s.request c) refusal ∧
      (∀ request ∈ s.requests before, d.Accepts request) ∧
      d.select s
        = { device := d.withChannels (before.map s.follow ++ c :: after),
            result := .error refusal,
            requests := s.requests before ++ [s.request c] } := by
  rcases d.select_cases s with ⟨hselect, haccepts⟩ |
    ⟨before, c, after, refusal, hsplit, hmoves, hrefuses, haccepts, hselect⟩
  · left
    rw [Selection.firsts_of_nodup hdistinct] at haccepts hselect
    rw [Selection.settleAll_of_nodup hdistinct] at hselect
    exact ⟨hselect, haccepts⟩
  · right
    have hfront : (before.map Channel.index).Nodup := by
      rw [hsplit, List.map_append] at hdistinct
      exact (List.nodup_append.mp hdistinct).1
    rw [Selection.firsts_of_nodup hfront] at haccepts hselect
    rw [Selection.settleAll_of_nodup hfront] at hselect
    exact ⟨before, c, after, refusal, hsplit, hmoves, hrefuses, haccepts, hselect⟩

/-- A channel that does not follow is one that the driver is asked about. -/
theorem request_mem_requests (hsplit : d.channels = before ++ c :: after)
    (hmoves : c.enabled ≠ s.includes c.index) : s.request c ∈ s.requests d.channels := by
  rw [hsplit, s.requests_append]
  refine List.mem_append_right _ (List.mem_map_of_mem ?_)
  exact List.mem_filter.mpr ⟨List.mem_cons_self, decide_eq_true hmoves⟩

/-- A driver that accepts all it would be asked about lets every channel follow. -/
theorem select_of_accepts (hdistinct : (d.channels.map Channel.index).Nodup)
    (haccepts : ∀ request ∈ s.requests d.channels, d.Accepts request) :
    d.select s
      = { device := d.withChannels (d.channels.map s.follow), result := .ok (),
          requests := d.asked (s.requests d.channels) } := by
  rcases select_cases_of_nodup hdistinct with ⟨hselect, -⟩ |
    ⟨before, c, after, refusal, hsplit, hmoves, hrefuses, -, -⟩
  · exact hselect
  · exact absurd (haccepts _ (request_mem_requests hsplit hmoves)) hrefuses.not_accepts

/-- **The first refusal ends it.** If no two channels have the same index, the driver is asked about
the channels that do not follow yet, each once and in order, up to the first that it refuses. If it
refuses none, all channels follow, and to apply the selection again comes to nothing; if it refuses
one, its refusal is the result, the channels in front follow, and the one that was refused and those
behind it are as they were. In any case nothing is touched but whether channels are enabled. -/
theorem select_stops_at_refusal (d : Device) (s : Selection)
    (hdistinct : (d.channels.map Channel.index).Nodup) :
    let change := d.select s
    change.device.channels.map Channel.unswitched = d.channels.map Channel.unswitched ∧
    (change.result = .ok () ↔ ∀ request ∈ s.requests d.channels, d.Accepts request) ∧
    (change.result = .ok () →
      change.device = { d with channels := d.channels.map s.follow } ∧
      change.requests = (if d.driver.isSome then s.requests d.channels else []) ∧
      change.device.select s = { device := change.device, result := .ok (), requests := [] }) ∧
    ∀ refusal, change.result = .error refusal →
      ∃ before c after, d.channels = before ++ c :: after ∧ c.enabled ≠ s.includes c.index ∧
        (∀ request ∈ s.requests before, d.Accepts request) ∧ d.Refuses (s.request c) refusal ∧
        change.device = { d with channels := before.map s.follow ++ c :: after } ∧
        change.requests = s.requests before ++ [s.request c] := by
  intro change
  refine ⟨d.map_unswitched_select s, ?_⟩
  rcases select_cases_of_nodup hdistinct with ⟨hselect, haccepts⟩ |
    ⟨before, c, after, refusal, hsplit, hmoves, hrefuses, haccepts, hselect⟩
  · have hok : change.result = .ok () := congrArg Change.result hselect
    refine ⟨iff_of_true hok haccepts, fun _ => ?_, fun refusal hrefused => ?_⟩
    · exact ⟨congrArg Change.device hselect, congrArg Change.requests hselect, select_again hok⟩
    · rw [hok] at hrefused
      cases hrefused
  · have herror : change.result = .error refusal := congrArg Change.result hselect
    have hnot : change.result ≠ .ok () := by
      rw [herror]
      exact nofun
    refine ⟨iff_of_false hnot fun hall => ?_, fun hok => absurd hok hnot, fun other hother => ?_⟩
    · exact hrefuses.not_accepts (hall _ (request_mem_requests hsplit hmoves))
    · obtain rfl : refusal = other := Except.error.inj (herror.symm.trans hother)
      exact ⟨before, c, after, hsplit, hmoves, haccepts, hrefuses,
        congrArg Change.device hselect, congrArg Change.requests hselect⟩

/-- Two selections for a device whose driver switches no channel above the fourth index: one that
leaves the channel with the fifth alone, and one that does not. -/
theorem select_stops_at_refusal_limited :
    let driver := Driver.limited none none 3 [.enabled]
    let a : Channel := { index := 0, name := "A" }
    let b : Channel := { index := 5, name := "B" }
    let c : Channel := { index := 2, name := "C" }
    let d : Device := { channels := [a, b, c], driver := some driver }
    let off (c : Channel) : Channel := { c with enabled := false }
    let asked (c : Channel) : Request := { setting := .enabled, channel := off c }
    (d.channels.map Channel.index).Nodup ∧
      (d.select (.only [5])).result = .ok () ∧
      (d.select (.only [5])).device.channels = [off a, b, off c] ∧
      (d.select (.only [5])).requests = [asked a, asked c] ∧
      ((d.select (.only [5])).device.select (.only [5])).requests = [] ∧
      (d.select (.all false)).result = .error (.unsupported "channel 5") ∧
      (d.select (.all false)).device.channels = [off a, b, c] ∧
      (d.select (.all false)).requests = [asked a, asked b] ∧
      ¬ (∀ request ∈ Selection.requests (.all false) d.channels, d.Accepts request) ∧
      ∃ before stopped after, d.channels = before ++ stopped :: after ∧
        (d.select (.all false)).device.channels
          = before.map (Selection.follow (.all false)) ++ stopped :: after := by
  intro driver a b c d off asked
  have hdistinct : (d.channels.map Channel.index).Nodup := by decide
  have hok : (d.select (.only [5])).result = .ok () := by decide
  have herror : (d.select (.all false)).result = .error (.unsupported "channel 5") := by decide
  obtain ⟨-, -, hdone, -⟩ := select_stops_at_refusal d (.only [5]) hdistinct
  obtain ⟨-, hiff, -, hstopped⟩ := select_stops_at_refusal d (.all false) hdistinct
  obtain ⟨hdevice, hrequests, hagain⟩ := hdone hok
  obtain ⟨before, stopped, after, hsplit, -, -, -, hstopped, -⟩ := hstopped _ herror
  refine ⟨hdistinct, hok, congrArg Device.channels hdevice, hrequests, ?_, herror, by decide,
    by decide, ?_, before, stopped, after, hsplit, congrArg Device.channels hstopped⟩
  · rw [hagain]
  · rw [← hiff, herror]
    exact nofun

end Device

end CaptureReport
