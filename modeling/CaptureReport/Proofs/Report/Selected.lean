import CaptureReport.Proofs.Report.Channels
import CaptureReport.Proofs.Selection

/-!
# What is shown after a selection

A selection that meets with no refusal has reached the first channel with each index. The other
channels with that index, the **repeats**, are as they were. If one of them does not follow the
selection to begin with, the device does not follow it in the end, though nothing has been refused;
and if it is a logic channel, an encoder shows either a channel too many or one too few.

## Main results

* `Selection.settleAll_follows_iff`: when all channels follow.
* `Selection.lanes_settleAll_iff`: when an encoder has the lanes that the selection asks for.
* `Device.select_reaches_firsts`: both, for the devices that a selection leaves behind.
-/

namespace CaptureReport

/-- The channels that have an index which one in front has already. -/
def repeats : List Nat → List Channel → List Channel
  | _, [] => []
  | seen, c :: rest =>
    if c.index ∈ seen then c :: repeats (seen ++ [c.index]) rest
    else repeats (seen ++ [c.index]) rest

namespace Selection

open Report

variable {s : Selection} {c : Channel} {channels : List Channel} {seen : List Nat}

theorem length_settleAll (s : Selection) (seen : List Nat) (channels : List Channel) :
    (s.settleAll seen channels).length = channels.length := by
  induction channels generalizing seen with
  | nil => rfl
  | cons c rest ih => rw [settleAll, List.length_cons, ih, List.length_cons]

theorem settleAll_append (s : Selection) (seen : List Nat) (channels more : List Channel) :
    s.settleAll seen (channels ++ more)
      = s.settleAll seen channels ++ s.settleAll (seen ++ channels.map Channel.index) more := by
  induction channels generalizing seen with
  | nil => rw [List.map_nil, List.append_nil]; rfl
  | cons c rest ih =>
    rw [List.cons_append, settleAll, ih, settleAll, List.map_cons, List.cons_append,
      List.append_assoc, List.singleton_append]

/-- A place in the list of channels after the firsts have come to follow. -/
theorem getElem?_settleAll (s : Selection) (before : List Channel) (c : Channel)
    (after : List Channel) :
    (s.settleAll [] (before ++ c :: after))[before.length]?
      = some (s.settle (before.map Channel.index) c) := by
  rw [s.settleAll_append, List.nil_append, List.getElem?_append_right (s.length_settleAll ..).le,
    s.length_settleAll, Nat.sub_self]
  rfl

theorem mem_repeats_self (h : c.index ∈ seen) (rest : List Channel) :
    c ∈ repeats seen (c :: rest) := by
  rw [repeats, if_pos h]
  exact List.mem_cons_self

theorem repeats_subset_cons (seen : List Nat) (c : Channel) (rest : List Channel) :
    repeats (seen ++ [c.index]) rest ⊆ repeats seen (c :: rest) := by
  rw [repeats]
  split
  · exact List.subset_cons_self _ _
  · exact List.Subset.refl _

/-- **All channels follow in the end exactly if the repeats followed to begin with.** -/
theorem settleAll_follows_iff :
    (∀ c ∈ s.settleAll seen channels, c.enabled = s.includes c.index) ↔
      ∀ c ∈ repeats seen channels, c.enabled = s.includes c.index := by
  induction channels generalizing seen with
  | nil => simp [settleAll, repeats]
  | cons c rest ih =>
    rw [settleAll, repeats, settle, List.forall_mem_cons, ih]
    split
    · rw [List.forall_mem_cons]
    · exact and_iff_right rfl

/-- Repeats are left as they were. -/
theorem mem_settleAll_of_mem_repeats (h : c ∈ repeats seen channels) :
    c ∈ s.settleAll seen channels := by
  induction channels generalizing seen with
  | nil => cases h
  | cons b rest ih =>
    rw [repeats] at h
    rw [settleAll, settle]
    split at h
    · rw [if_pos ‹_›]
      rcases List.mem_cons.mp h with rfl | h
      · exact List.mem_cons_self
      · exact List.mem_cons_of_mem _ (ih h)
    · exact List.mem_cons_of_mem _ (ih h)

/-! ### What a report shows -/

/-- The channels that a report shows if they all follow. -/
def shown (s : Selection) (channels : List Channel) : List Channel :=
  channels.filter fun c => c.kind = .logic && s.includes c.index

@[simp] theorem ofChannel_settle (s : Selection) (seen : List Nat) (c : Channel) :
    Lane.ofChannel (s.settle seen c) = Lane.ofChannel c := by
  rw [settle]
  split <;> rfl

/-- If the repeats among the logic channels follow, the lanes are those of the channels that are to
be shown. -/
theorem lanes_settleAll
    (h : ∀ c ∈ repeats seen channels, c.kind = .logic → c.enabled = s.includes c.index) :
    ((s.settleAll seen channels).filter Channel.isSelected).map Lane.ofChannel
      = (s.shown channels).map Lane.ofChannel := by
  induction channels generalizing seen with
  | nil => rfl
  | cons c rest ih =>
    have hhead : (s.settle seen c).isSelected = (c.kind = .logic && s.includes c.index) := by
      rw [settle]
      split
      · have hc := h c (mem_repeats_self ‹_› rest)
        rw [Channel.isSelected]
        by_cases hkind : c.kind = .logic
        · rw [hc hkind]
        · simp [hkind]
      · rfl
    have htail := ih fun b hb => h b (repeats_subset_cons seen c rest hb)
    rw [shown] at htail ⊢
    rw [settleAll, List.filter_cons, List.filter_cons, hhead]
    split
    · rw [List.map_cons, List.map_cons, ofChannel_settle, htail]
    · exact htail

/-- The lanes with an index are as many as the channels with it. -/
theorem countP_index_ofChannel (index : Nat) (channels : List Channel) :
    (channels.map Lane.ofChannel).countP (·.index = index)
      = channels.countP (·.index = index) := by
  rw [List.countP_map]
  rfl

/-- The channels to be shown can be counted after the firsts have come to follow as well. -/
theorem countP_index_shown (s : Selection) (seen : List Nat) (channels : List Channel)
    (index : Nat) :
    (s.shown channels).countP (·.index = index)
      = (s.settleAll seen channels).countP fun c =>
          c.index = index && (c.kind = .logic && s.includes c.index) := by
  have hunswitched : ∀ channels : List Channel,
      channels.countP (fun c => c.index = index && (c.kind = .logic && s.includes c.index))
        = (channels.map Channel.unswitched).countP fun c =>
          c.index = index && (c.kind = .logic && s.includes c.index) := by
    intro channels
    rw [List.countP_map]
    rfl
  rw [shown, List.countP_filter, hunswitched, ← map_unswitched_settleAll s seen, ← hunswitched]

/-- If no more members of a list have the one property than have another that implies it, all that
have the one have the other. -/
theorem mem_of_countP_le {α : Type} {p q : α → Bool} {l : List α} (himp : p ≤ q)
    (hle : l.countP q ≤ l.countP p) {a : α} (ha : a ∈ l) (hq : q a) : p a := by
  have hsame : l.filter p = l.filter q := by
    refine (List.monotone_filter_right l himp).eq_of_length_le ?_
    rwa [← List.countP_eq_length_filter, ← List.countP_eq_length_filter]
  have hmem : a ∈ l.filter p := hsame ▸ List.mem_filter.mpr ⟨ha, hq⟩
  exact (List.mem_filter.mp hmem).2

/-- **The lanes are those of the channels that are to be shown exactly if the repeats among the
logic channels followed to begin with.** A repeat that is enabled against the selection has a lane
that no channel to be shown has; one that is disabled against it leaves its index with fewer lanes
than there are channels to be shown. -/
theorem lanes_settleAll_iff :
    ((s.settleAll seen channels).filter Channel.isSelected).map Lane.ofChannel
        = (s.shown channels).map Lane.ofChannel ↔
      ∀ c ∈ repeats seen channels, c.kind = .logic → c.enabled = s.includes c.index := by
  refine ⟨fun hlanes c hc hkind => ?_, lanes_settleAll⟩
  have hmem := mem_settleAll_of_mem_repeats (s := s) hc
  cases hincludes : s.includes c.index with
  | false =>
    rw [Bool.eq_false_iff]
    intro hon
    have hselected : c.isSelected := by simp [Channel.isSelected, hkind, hon]
    have hlane : Lane.ofChannel c ∈ (s.shown channels).map Lane.ofChannel := by
      rw [← hlanes]
      exact List.mem_map_of_mem (List.mem_filter.mpr ⟨hmem, hselected⟩)
    obtain ⟨b, hb, heq⟩ := List.mem_map.mp hlane
    have hindex : b.index = c.index := congrArg Lane.index heq
    have hshown := (List.mem_filter.mp hb).2
    simp [hindex, hincludes] at hshown
  | true =>
    have hcount := congrArg (List.countP (·.index = c.index)) hlanes
    rw [countP_index_ofChannel, countP_index_ofChannel, countP_index_shown s seen,
      List.countP_filter] at hcount
    have himp : (fun b : Channel => b.index = c.index && b.isSelected)
        ≤ fun b => b.index = c.index && (b.kind = .logic && s.includes b.index) := by
      intro b hb
      simp only [Channel.isSelected, Bool.and_eq_true, decide_eq_true_eq] at hb ⊢
      exact ⟨hb.1, hb.2.1, hb.1 ▸ hincludes⟩
    have hboth := mem_of_countP_le himp hcount.ge hmem (by simp [hkind, hincludes])
    simp only [Channel.isSelected, Bool.and_eq_true] at hboth
    exact hboth.2.2

end Selection

namespace Device

/-- **A selection reaches the first channel with each index.** If nothing is refused, every first
follows, and every repeat is as it was. So all channels follow exactly if the repeats did to begin
with; and an encoder for the device has lanes for the logic channels whose indices the selection
includes, and no others, exactly if the repeats among the logic channels did. -/
theorem select_reaches_firsts (d : Device) (s : Selection) (h : (d.select s).result = .ok ()) :
    let device := (d.select s).device
    device.channels.length = d.channels.length ∧
    (∀ before c after, d.channels = before ++ c :: after →
      device.channels[before.length]? = some
        (if c.index ∈ before.map Channel.index then c
        else { c with enabled := s.includes c.index })) ∧
    ((∀ c ∈ device.channels, c.enabled = s.includes c.index) ↔
      ∀ c ∈ repeats [] d.channels, c.enabled = s.includes c.index) ∧
    ∀ text width, Report.chosenWidth text = .ok width →
      ∃ e, Report.Encoder.ofDevice device text = .ok e ∧
        e.lanes = device.selected.map Report.Lane.ofChannel ∧
        (e.lanes = (d.channels.filter fun c => c.kind = .logic && s.includes c.index).map
            Report.Lane.ofChannel ↔
          ∀ c ∈ repeats [] d.channels, c.kind = .logic → c.enabled = s.includes c.index) := by
  intro device
  have hdevice : device = d.withChannels (s.settleAll [] d.channels) := select_of_ok h
  have hchannels : device.channels = s.settleAll [] d.channels := congrArg Device.channels hdevice
  refine ⟨?_, fun before c after hsplit => ?_, ?_, fun text width hwidth => ?_⟩
  · rw [hchannels, s.length_settleAll]
  · rw [hchannels, hsplit, s.getElem?_settleAll]
    rfl
  · rw [hchannels]
    exact Selection.settleAll_follows_iff
  · obtain ⟨e, hnew, -⟩ := Report.Encoder.exists_ofDevice device hwidth
    obtain ⟨hlanes, -⟩ := Report.Encoder.lanes_ofDevice hnew
    refine ⟨e, hnew, hlanes, ?_⟩
    rw [hlanes, selected, hchannels]
    exact Selection.lanes_settleAll_iff

/-- A device with an index that stands for three channels, of which the first and the third do not
follow to begin with. -/
theorem select_reaches_firsts_thrice :
    let a : Channel := { index := 0, name := "A" }
    let b : Channel := { index := 0, name := "B", enabled := false }
    let c : Channel := { index := 3, name := "C", kind := .analog, enabled := false }
    let e : Channel := { index := 0, name := "E" }
    let d : Device := { channels := [a, b, c, e], driver := some .bare }
    let s : Selection := .only [3, 3]
    let device := (d.select s).device
    (d.select s).result = .ok () ∧ Report.chosenWidth none = .ok 192 ∧
      repeats [] d.channels = [b, e] ∧ device.channels.length = 4 ∧
      device.channels[0]? = some { a with enabled := false } ∧
      device.channels[3]? = some e ∧
      ¬ (∀ c ∈ device.channels, c.enabled = s.includes c.index) ∧
      ∃ encoder, Report.Encoder.ofDevice device none = .ok encoder ∧
        encoder.lanes = [Report.Lane.ofChannel e] ∧
        ¬ encoder.lanes = (d.channels.filter fun c => c.kind = .logic && s.includes c.index).map
          Report.Lane.ofChannel := by
  intro a b c e d s device
  have hok : (d.select s).result = .ok () := by decide
  have hwidth : Report.chosenWidth none = .ok 192 := rfl
  have hrepeats : repeats [] d.channels = [b, e] := by decide
  obtain ⟨hlength, hplaces, hfollows, hshown⟩ := select_reaches_firsts d s hok
  obtain ⟨encoder, hnew, hlanes, hexact⟩ := hshown none 192 hwidth
  have hselected : device.selected = [e] := by decide
  refine ⟨hok, hwidth, hrepeats, hlength, hplaces [] a [b, c, e] rfl,
    hplaces [a, b, c] e [] rfl, ?_, encoder, hnew, ?_, ?_⟩
  · rw [hfollows, hrepeats]
    decide
  · rw [hlanes, hselected, List.map_singleton]
  · rw [hexact, hrepeats]
    decide

/-- A selection of no channel is applied to a device with two channels of one index, and nothing is
refused; but the second one stays enabled, and is shown. -/
theorem repeat_stays_enabled :
    let d : Device := { channels := [{ index := 0, name := "A" }, { index := 0, name := "B" }] }
    let s : Selection := .only []
    let device := (d.select s).device
    (d.select s).result = .ok () ∧
      ¬ (∀ c ∈ device.channels, c.enabled = s.includes c.index) ∧
      (d.channels.filter fun c => c.kind = .logic && s.includes c.index) = [] ∧
      ∃ e, Report.Encoder.ofDevice device none = .ok e ∧ e.lanes.map (·.name) = ["B"] := by
  intro d s device
  exact ⟨by decide, by decide, by decide, _, rfl, by decide⟩

end Device

end CaptureReport
