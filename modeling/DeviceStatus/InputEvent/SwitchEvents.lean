import DeviceStatus.InputEvent.RoundTrip

/-!
# Switch events and their serialization

`MMI::SwitchEvent` as far as the cooperation uses it, and `InputEventSerialization` for switch
events.
-/

namespace DeviceStatus.InputEvents

open Bytes Ipc Ipc.StreamBuffer

/-- `MMI::SwitchEvent`. -/
structure SwitchEvent extends InputEvent where
  switchValue : Int32 := 0
  switchMask : Int32 := 0
  deriving DecidableEq

/-- `SwitchEventToNetPacket`; the event type is that of switch events. -/
def switchEventToNetPacket (eventType : Int32) (swEvent : SwitchEvent) (pkt : StreamBuffer) :
    Bool × StreamBuffer :=
  andThen (serializeInputEvent eventType swEvent.toInputEvent pkt) fun pkt =>
    ((pkt.put swEvent.switchValue).put swEvent.switchMask).checked

/-- `NetPacketToSwitchEvent` to `swEvent`. The reads of value and mask are not checked. -/
def netPacketToSwitchEvent (sensorTime : UInt64) (pkt : StreamBuffer) (swEvent : SwitchEvent) :
    Bool × SwitchEvent × StreamBuffer :=
  let (ok, inputEvent, pkt) := deserializeInputEvent sensorTime swEvent.toInputEvent pkt
  let swEvent := { swEvent with toInputEvent := inputEvent }
  if !ok then (false, swEvent, pkt)
  else
    let (switchValue, pkt) := pkt.get (0 : Int32)
    let (switchMask, pkt) := pkt.get switchValue
    (true, { swEvent with switchValue, switchMask }, pkt)

/-! ## On the wire -/

def SwitchEvent.wire (eventType : Int32) (swEvent : SwitchEvent) : List UInt8 :=
  swEvent.toInputEvent.wire eventType ++ (image swEvent.switchValue ++ image swEvent.switchMask)

theorem encodes_switchEventToNetPacket (eventType : Int32) (swEvent : SwitchEvent) :
    Encodes (switchEventToNetPacket eventType swEvent) (swEvent.wire eventType) :=
  (encodes_serializeInputEvent eventType swEvent.toInputEvent).andThen
    (.of_checked fun pkt => (Wrote.put _ pkt).andPut _)

/-- A switch event survives the wire. -/
theorem netPacketToSwitchEvent_of_holds {pkt : StreamBuffer} {rest : List UInt8}
    {eventType : Int32} {swEvent : SwitchEvent}
    (h : Holds pkt (swEvent.wire eventType ++ rest)) (sensorTime : UInt64) (fresh : SwitchEvent) :
    ∃ pkt', netPacketToSwitchEvent sensorTime pkt fresh =
        (true, { swEvent with flag := fresh.flag ||| swEvent.flag }, pkt') ∧ Holds pkt' rest := by
  rw [SwitchEvent.wire, List.append_assoc] at h
  obtain ⟨_, readInputEvent, h⟩ := deserializeInputEvent_of_holds h sensorTime fresh.toInputEvent
  rw [List.append_assoc] at h
  obtain ⟨_, readValue, h⟩ := h.get_eq 0
  obtain ⟨pkt', readMask, h⟩ := h.get_eq swEvent.switchValue
  refine ⟨pkt', ?_, h⟩
  simp only [netPacketToSwitchEvent, readInputEvent, readValue, readMask, Bool.not_true,
    Bool.false_eq_true, if_false]

end DeviceStatus.InputEvents
