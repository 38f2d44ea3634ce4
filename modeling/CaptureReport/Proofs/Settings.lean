import CaptureReport.Proofs.Report.Channels
import CaptureReport.Proofs.Report.Lines
import CaptureReport.Proofs.Selection
import CaptureReport.Stream.Run

/-!
# From the settings to the report

A recorded capture has no hardware that could object: the device that stands in for it has a channel
for each index below the number of channels, in ascending order, and a driver that accepts every
request. So the selection of the settings takes effect in full, and what an encoder shows of the
device can be read off the settings.

## Main results

* `InputSettings.select_device`: what comes of applying a selection to the device of a capture.
* `InputSettings.impliedSize_le_iff`: how wide a sample has to be for a number of channels.
* `InputSettings.selection_shown`: what is selected, how it is named and announced, and that of the
  selection nothing else can be seen in a run.
-/

namespace CaptureReport.InputSettings

open Report

/-- The line of a header that counts the channels shown among all of them. -/
def acquisitionLine (shown channels rate : Nat) : String :=
  s!"Acquisition with {shown}/{channels} channels at " ++ Text.rateText rate

/-- The device of a capture with its channels switched. -/
def switched (input : InputSettings) (s : Selection) : Device :=
  input.device.withChannels <| (List.range input.channels).map fun index =>
    { index, name := input.channelName index, enabled := s.includes index }

section Device

variable (input : InputSettings) (s : Selection)

theorem map_index_device :
    input.device.channels.map Channel.index = List.range input.channels := by
  rw [device, List.map_map]
  exact List.map_id _

theorem accepts_device (request : Request) : input.device.Accepts request := by
  intro driver hdriver
  obtain rfl : Driver.recorded input.sampleRate = driver := Option.some.inj hdriver
  rfl

/-- **Nothing is refused**, and every channel follows. -/
theorem select_device :
    (input.device.select s).result = .ok () ∧
      (input.device.select s).device = input.switched s := by
  have hdistinct : (input.device.channels.map Channel.index).Nodup := by
    rw [map_index_device]
    exact List.nodup_range
  have hselect := Device.select_of_accepts (s := s) hdistinct fun _ _ => input.accepts_device _
  rw [hselect, switched, device, List.map_map]
  exact ⟨rfl, rfl⟩

/-- The channels that a report shows are those with an index that the selection includes. -/
theorem selected_switched :
    (input.switched s).selected
      = ((List.range input.channels).filter s.includes).map fun index =>
        { index, name := input.channelName index } := by
  rw [switched, Device.selected, Device.channels_withChannels, List.filter_map]
  have hselected : (Channel.isSelected ∘ fun index =>
      ({ index, name := input.channelName index, enabled := s.includes index } : Channel))
        = s.includes := rfl
  rw [hselected]
  refine List.map_congr_left fun index hindex => ?_
  rw [(List.mem_filter.mp hindex).2]

/-- If the sample rate is known, and only then, the header counts the channels. -/
theorem headerLines_switched :
    headerLines (input.switched s)
      = banner :: (input.sampleRate.map <|
          acquisitionLine ((List.range input.channels).filter s.includes).length
            input.channels).toList := by
  have hshown : (input.switched s).selected.length
      = ((List.range input.channels).filter s.includes).length := by
    rw [selected_switched, List.length_map]
  have hall : (input.switched s).channels.length = input.channels := by
    rw [switched, Device.channels_withChannels, List.length_map, List.length_range]
  have hrate : (input.switched s).sampleRate = input.sampleRate := rfl
  rw [headerLines, hrate, hshown, hall]
  cases input.sampleRate <;> rfl

/-- What a selection says beyond the channels does not matter to the device. -/
theorem select_device_congr {s other : Selection}
    (h : ∀ index < input.channels, other.includes index = s.includes index) :
    input.device.select other = input.device.select s := by
  apply Device.selectEach_congr
  rw [map_index_device]
  intro index hindex
  exact h index (List.mem_range.mp hindex)

end Device

/-- **How wide a sample has to be**: at least one byte, and wide enough for the bit of each
channel. -/
theorem impliedSize_le_iff {channels size : Nat} :
    impliedSize channels ≤ size ↔ 0 < size ∧ ∀ index < channels, index / 8 < size := by
  rw [impliedSize, max_le_iff]
  constructor
  · rintro ⟨hchannels, hpos⟩
    exact ⟨hpos, fun index hindex => by omega⟩
  · rintro ⟨hpos, hroom⟩
    refine ⟨?_, hpos⟩
    by_cases hzero : channels = 0
    · omega
    · have hlast := hroom (channels - 1) (by omega)
      omega

/-- **The selection, from the settings to the report.** It is applied without a refusal; an encoder
for the device shows the channels that it includes, in ascending order and with the names they have
been given, and announces them in the header if the sample rate is known. An implied sample is as
wide as all channels need, and no wider. And runs that differ in what their selections say beyond
the channels are the same. -/
theorem selection_shown (input : InputSettings) :
    let change := input.device.select input.enabled
    let shown := (List.range input.channels).filter input.enabled.includes
    change.result = .ok () ∧
    (∀ text width, chosenWidth text = .ok width →
      ∃ e, Encoder.ofDevice change.device text = .ok e ∧
        e.lanes = shown.map (fun index =>
          { index, name := input.names[index]?.getD s!"D{index}" }) ∧
        e.header = some (unlines (banner ::
          (input.sampleRate.map (acquisitionLine shown.length input.channels)).toList))) ∧
    (input.unitSize = none →
      (∀ index < input.channels, index / 8 < input.sampleSize) ∧
      ∀ size, 0 < size → (∀ index < input.channels, index / 8 < size) → input.sampleSize ≤ size) ∧
    ∀ s : Selection, (∀ index < input.channels, s.includes index = input.enabled.includes index) →
      ∀ output stream source sink,
        let other : InputSettings := { input with enabled := s }
        Stream.run { input := other, output, stream } (other.device.select s).device source sink
          = Stream.run { input, output, stream } change.device source sink := by
  intro change shown
  obtain ⟨hok, hdevice⟩ := input.select_device input.enabled
  refine ⟨hok, fun text width hwidth => ?_, fun hsize => ?_,
    fun s hsame output stream source sink => ?_⟩
  · obtain ⟨e, hnew, hfollows⟩ := Encoder.exists_ofDevice change.device hwidth
    obtain ⟨hlanes, -⟩ := Encoder.lanes_ofDevice hnew
    refine ⟨e, hnew, ?_, ?_⟩
    · rw [hlanes, hdevice, selected_switched, List.map_map]
      rfl
    · rw [hfollows.header, header_eq_unlines, hdevice, headerLines_switched]
      rfl
  · have hleast {size : Nat} : input.sampleSize ≤ size ↔
        0 < size ∧ ∀ index < input.channels, index / 8 < size := by
      rw [sampleSize, hsize, Option.getD_none, impliedSize_le_iff]
    exact ⟨(hleast.mp le_rfl).2, fun size hpos hroom => hleast.mpr ⟨hpos, hroom⟩⟩
  · intro other
    have hselect : other.device.select s = change := input.select_device_congr hsame
    rw [hselect]
    rfl

/-- Four channels, two of them named and two of them selected, and a list that selects the same ones
in another order, with one of them twice and one that there is not. -/
theorem selection_shown_four :
    let input : InputSettings :=
      { channels := 4, sampleRate := some 1000, enabled := .only [3, 1], names := ["A", "B"] }
    let s : Selection := .only [1, 9, 3, 1]
    let other : InputSettings := { input with enabled := s }
    let device := (input.device.select input.enabled).device
    (input.device.select input.enabled).result = .ok () ∧
      chosenWidth none = .ok 192 ∧
      (∃ e, Encoder.ofDevice device none = .ok e ∧
        e.lanes = [{ index := 1, name := "B" }, { index := 3, name := "D3" }] ∧
        e.header = some "logic-hex 0.1.0\nAcquisition with 2/4 channels at 1 kHz\n") ∧
      input.unitSize = none ∧ (∀ index < 4, index / 8 < input.sampleSize) ∧
      input.sampleSize ≤ 1 ∧
      (∀ index < 4, s.includes index = input.enabled.includes index) ∧
      ∀ output stream source sink,
        Stream.run { input := other, output, stream } (other.device.select s).device source sink
          = Stream.run { input, output, stream } device source sink := by
  intro input s other device
  have hwidth : chosenWidth none = .ok 192 := rfl
  have hroom : ∀ index < 4, index / 8 < 1 := by decide
  have hsame : ∀ index < 4, s.includes index = input.enabled.includes index := by decide
  obtain ⟨hok, hencoder, hsize, hother⟩ := selection_shown input
  obtain ⟨e, hnew, hlanes, hheader⟩ := hencoder none 192 hwidth
  obtain ⟨hfits, hleast⟩ := hsize rfl
  refine ⟨hok, hwidth, ⟨e, hnew, hlanes, hheader.trans ?_⟩, rfl, hfits,
    hleast 1 Nat.one_pos hroom, hsame, hother s hsame⟩
  decide

end CaptureReport.InputSettings
