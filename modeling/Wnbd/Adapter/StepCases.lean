import Wnbd.Adapter.Lifecycle

/-!
# The steps of create calls and monitor threads

One case for each way a create call or a monitor goes on.  Proofs about `creatorStep` and
`monitorStep` go through `CreatorCase` and `MonitorCase`; steps that only advance the
thread, or also write one device, are told apart by their places in a relation of their own.
-/

set_option autoImplicit false

namespace Wnbd.Adapter

open Wnbd.Scsi AdapterState LifecycleState

/-! ## Create calls -/

inductive CreatorMove (state : LifecycleState) (fails : Bool) : CreatorPc → CreatorPc → Prop
  | nameTaken (props : WnbdProperties)
      (found : (state.adapter.findDeviceByInstanceName props.instanceName).isSome = true) :
      CreatorMove state fails (.findName props) (.failed statusObjectNameCollision true)
  | nameFree (props : WnbdProperties)
      (absent : (state.adapter.findDeviceByInstanceName props.instanceName).isSome = false) :
      CreatorMove state fails (.findName props) (.allocate props)
  | noDevice (props : WnbdProperties) (failed : fails = true) :
      CreatorMove state fails (.allocate props) (.failed statusInsufficientResources true)
  | noInquiry (failed : fails = true) :
      CreatorMove state fails .allocateInquiry (.exitDevice none statusInsufficientResources)
  | noThread (scsiBitNumber : Nat) (failed : fails = true) :
      CreatorMove state fails (.startThread scsiBitNumber)
        (.exitDevice (some scsiBitNumber) statusInsufficientResources)
  | noReference (scsiBitNumber : Nat) (failed : fails = true) :
      CreatorMove state fails (.referenceThread scsiBitNumber)
        (.exitDevice (some scsiBitNumber) statusInsufficientResources)
  | populatePool : CreatorMove state fails .populatePool .copyInfo
  | copyInfo : CreatorMove state fails .copyInfo .link
  | notify : CreatorMove state fails .notify .connect
  | noBit (status : NtStatus) :
      CreatorMove state fails (.exitClear none status) (.exitRelease status)

/-- Steps that write a field of the new device. -/
inductive CreatorWrite :
    CreatorPc → CreatorPc → (WnbdDiskDevice → WnbdDiskDevice) → Prop
  | inquiry : CreatorWrite .allocateInquiry .claimAddress ({ · with inquiryData := true })
  | thread (scsiBitNumber : Nat) :
      CreatorWrite (.referenceThread scsiBitNumber) .populatePool
        ({ · with deviceMonitorThread := true })
  | connected : CreatorWrite .connect .done ({ · with connected := true })

inductive CreatorCase (state : LifecycleState) (call : DeviceId) (fails : Bool) :
    LifecycleState → Prop
  | moves (pc next : CreatorPc) (here : state.creators call = pc)
      (move : CreatorMove state fails pc next) :
      CreatorCase state call fails (state.setCreator call next)
  | writes (pc next : CreatorPc) (change : WnbdDiskDevice → WnbdDiskDevice)
      (here : state.creators call = pc) (write : CreatorWrite pc next change) :
      CreatorCase state call fails
        ((state.setAdapter (state.adapter.updateDevice call change)).setCreator call next)
  | allocates (props : WnbdProperties) (here : state.creators call = .allocate props) :
      CreatorCase state call fails ((state.setAdapter
        (state.adapter.setDevice call (some (WnbdDiskDevice.zeroed props)))).setCreator call
          .allocateInquiry)
  | noAddress (here : state.creators call = .claimAddress)
      (full : BitMap.findClear state.adapter.scsiBitMap = none) :
      CreatorCase state call fails
        (state.setCreator call (.exitDevice none statusTooManyAddresses))
  | claims (scsiBitNumber : Nat) (here : state.creators call = .claimAddress)
      (found : BitMap.findClear state.adapter.scsiBitMap = some scsiBitNumber) :
      CreatorCase state call fails
        ((state.setAdapter (state.adapter.claimBit scsiBitNumber)).setCreator call
          (.assignAddress scsiBitNumber))
  | accepts (scsiBitNumber : Nat) (here : state.creators call = .assignAddress scsiBitNumber)
      (accepted : (state.adapter.devices call).any
        (fun value => geometryAccepted value.properties) = true) :
      CreatorCase state call fails
        ((state.setAdapter (state.adapter.assignAddress call scsiBitNumber)).setCreator call
          (.startThread scsiBitNumber))
  | refuses (scsiBitNumber : Nat) (here : state.creators call = .assignAddress scsiBitNumber)
      (refused : (state.adapter.devices call).any
        (fun value => geometryAccepted value.properties) = false) :
      CreatorCase state call fails
        ((state.setAdapter (state.adapter.assignAddress call scsiBitNumber)).setCreator call
          (.exitDevice (some scsiBitNumber) statusInvalidParameter))
  | starts (scsiBitNumber : Nat) (here : state.creators call = .startThread scsiBitNumber) :
      CreatorCase state call fails
        ((state.setMonitor call .start).setCreator call (.referenceThread scsiBitNumber))
  | links (here : state.creators call = .link) :
      CreatorCase state call fails
        ((state.setAdapter (state.adapter.linkDevice call)).setCreator call .count)
  | counts (here : state.creators call = .count) :
      CreatorCase state call fails
        ((state.setAdapter { state.adapter with
          deviceCount := state.adapter.deviceCount + 1 }).setCreator call .notify)
  | leaves (scsiBitNumber : Option Nat) (status : NtStatus)
      (here : state.creators call = .exitDevice scsiBitNumber status)
      (stored : (state.adapter.devices call).any (·.deviceMonitorThread) = true) :
      CreatorCase state call fails (state.setCreator call (.failed status true))
  | frees (scsiBitNumber : Option Nat) (status : NtStatus)
      (here : state.creators call = .exitDevice scsiBitNumber status)
      (unstored : (state.adapter.devices call).any (·.deviceMonitorThread) = false) :
      CreatorCase state call fails
        ((state.setAdapter (state.adapter.setDevice call none)).setCreator call
          (.exitClear scsiBitNumber status))
  | clears (scsiBitNumber : Nat) (status : NtStatus)
      (here : state.creators call = .exitClear (some scsiBitNumber) status) :
      CreatorCase state call fails
        ((state.setAdapter (state.adapter.clearBit scsiBitNumber)).setCreator call
          (.exitRelease status))
  | releases (status : NtStatus) (here : state.creators call = .exitRelease status) :
      CreatorCase state call fails
        ((state.setAdapter state.adapter.releaseRundown).setCreator call (.failed status false))

theorem creatorStep_cases {state after : LifecycleState} {call : DeviceId} {fails : Bool}
    (taken : creatorStep state call fails = some after) : CreatorCase state call fails after := by
  unfold creatorStep at taken
  dsimp only at taken
  generalize here : state.creators call = pc at taken
  cases pc with
  | idle | done | failed => cases taken
  | findName props =>
      dsimp only at taken
      split_ifs at taken with found <;> cases taken
      · exact .moves _ _ here (.nameTaken props found)
      · exact .moves _ _ here (.nameFree props (Bool.eq_false_iff.mpr found))
  | allocate props =>
      cases fails <;> cases taken
      · exact .allocates props here
      · exact .moves _ _ here (.noDevice props rfl)
  | allocateInquiry =>
      cases fails <;> cases taken
      · exact .writes _ _ _ here .inquiry
      · exact .moves _ _ here (.noInquiry rfl)
  | claimAddress =>
      cases found : BitMap.findClear state.adapter.scsiBitMap with
      | none =>
          simp only [found] at taken
          cases taken
          exact .noAddress here found
      | some bit =>
          simp only [found] at taken
          cases taken
          exact .claims bit here found
  | assignAddress bit =>
      dsimp only at taken
      split_ifs at taken with accepted <;> cases taken
      · exact .accepts bit here accepted
      · exact .refuses bit here (Bool.eq_false_iff.mpr accepted)
  | startThread bit =>
      cases fails <;> cases taken
      · exact .starts bit here
      · exact .moves _ _ here (.noThread bit rfl)
  | referenceThread bit =>
      cases fails <;> cases taken
      · exact .writes _ _ _ here (.thread bit)
      · exact .moves _ _ here (.noReference bit rfl)
  | populatePool =>
      cases taken
      exact .moves _ _ here .populatePool
  | copyInfo =>
      cases taken
      exact .moves _ _ here .copyInfo
  | link =>
      cases taken
      exact .links here
  | count =>
      cases taken
      exact .counts here
  | notify =>
      cases taken
      exact .moves _ _ here .notify
  | connect =>
      cases taken
      exact .writes _ _ _ here .connected
  | exitDevice bit status =>
      dsimp only at taken
      split_ifs at taken with stored <;> cases taken
      · exact .leaves bit status here stored
      · exact .frees bit status here (Bool.eq_false_iff.mpr stored)
  | exitClear bit status =>
      cases bit <;> cases taken
      · exact .moves _ _ here (.noBit status)
      · exact .clears _ status here
  | exitRelease status =>
      cases taken
      exact .releases status here

/-! ## Monitor threads -/

inductive MonitorMove : MonitorPc → MonitorPc → Prop
  | drain : MonitorMove .drain .unlink
  | notify : MonitorMove .notify .count
  | drainPool : MonitorMove .drainPool .dereferenceThread
  | dereferenceThread : MonitorMove .dereferenceThread .free

inductive MonitorWrite : MonitorPc → MonitorPc → (WnbdDiskDevice → WnbdDiskDevice) → Prop
  | mark : MonitorWrite .mark .signal ({ · with hardRemoveDevice := true })
  | signal : MonitorWrite .signal .startRundown ({ · with deviceRemovalEvent := true })
  | startRundown : MonitorWrite .startRundown .rundown fun value =>
      { value with rundownProtection := value.rundownProtection.startWait }
  | freeInquiry : MonitorWrite .freeInquiry .drainPool ({ · with inquiryData := false })

inductive MonitorCase (state : LifecycleState) (device : DeviceId) : LifecycleState → Prop
  | wakes (here : state.monitors device = .start)
      (signaled : state.adapter.globalDeviceRemovalEvent.signaled = true) :
      MonitorCase state device ((state.setAdapter { state.adapter with
        globalDeviceRemovalEvent :=
          { state.adapter.globalDeviceRemovalEvent with signaled := false } }).setMonitor device
            .mark)
  | ownEvent (here : state.monitors device = .start)
      (unset : state.adapter.globalDeviceRemovalEvent.signaled = false)
      (own : (state.adapter.devices device).any (·.deviceRemovalEvent) = true) :
      MonitorCase state device (state.setMonitor device .mark)
  | sleeps (here : state.monitors device = .start)
      (unset : state.adapter.globalDeviceRemovalEvent.signaled = false)
      (notOwn : (state.adapter.devices device).any (·.deviceRemovalEvent) = false) :
      MonitorCase state device ((state.setAdapter { state.adapter with
        globalDeviceRemovalEvent :=
          { state.adapter.globalDeviceRemovalEvent with
            waiters := state.adapter.globalDeviceRemovalEvent.waiters ++ [device] } }).setMonitor
              device .waiting)
  | moves (pc next : MonitorPc) (here : state.monitors device = pc)
      (move : MonitorMove pc next) :
      MonitorCase state device (state.setMonitor device next)
  | writes (pc next : MonitorPc) (change : WnbdDiskDevice → WnbdDiskDevice)
      (here : state.monitors device = pc) (write : MonitorWrite pc next change) :
      MonitorCase state device
        ((state.setAdapter (state.adapter.updateDevice device change)).setMonitor device next)
  | runDown (here : state.monitors device = .rundown)
      (released : (state.adapter.devices device).all
        (fun value => decide value.rundownProtection.released) = true) :
      MonitorCase state device (state.setMonitor device .drain)
  | unlinks (here : state.monitors device = .unlink) :
      MonitorCase state device
        ((state.setAdapter (state.adapter.unlinkDevice device)).setMonitor device .notify)
  | counts (here : state.monitors device = .count) :
      MonitorCase state device
        ((state.setAdapter { state.adapter with
          deviceCount := state.adapter.deviceCount - 1 }).setMonitor device .freeInquiry)
  | frees (here : state.monitors device = .free) :
      MonitorCase state device
        ((state.setAdapter (state.adapter.setDevice device none)).setMonitor device .release)
  | releases (here : state.monitors device = .release) :
      MonitorCase state device
        ((state.setAdapter state.adapter.releaseRundown).setMonitor device .finished)

theorem monitorWait_cases {state : LifecycleState} {device : DeviceId}
    (here : state.monitors device = .start) :
    MonitorCase state device (monitorWait state device) := by
  unfold monitorWait SyncEvent.wait
  cases signaled : state.adapter.globalDeviceRemovalEvent.signaled with
  | true =>
      simp only [if_true]
      exact .wakes here signaled
  | false =>
      simp only [Bool.false_eq_true, if_false]
      split_ifs with own
      · exact .ownEvent here signaled own
      · exact signaled ▸ .sleeps here signaled (Bool.eq_false_iff.mpr own)

theorem monitorStep_cases {state after : LifecycleState} {device : DeviceId}
    (taken : monitorStep state device = some after) : MonitorCase state device after := by
  unfold monitorStep at taken
  dsimp only at taken
  generalize here : state.monitors device = pc at taken
  cases pc with
  | absent | waiting | finished => cases taken
  | start =>
      cases taken
      exact monitorWait_cases here
  | mark =>
      cases taken
      exact .writes _ _ _ here .mark
  | signal =>
      cases taken
      exact .writes _ _ _ here .signal
  | startRundown =>
      cases taken
      exact .writes _ _ _ here .startRundown
  | rundown =>
      dsimp only at taken
      split_ifs at taken with released
      cases taken
      exact .runDown here released
  | drain =>
      cases taken
      exact .moves _ _ here .drain
  | unlink =>
      cases taken
      exact .unlinks here
  | notify =>
      cases taken
      exact .moves _ _ here .notify
  | count =>
      cases taken
      exact .counts here
  | freeInquiry =>
      cases taken
      exact .writes _ _ _ here .freeInquiry
  | drainPool =>
      cases taken
      exact .moves _ _ here .drainPool
  | dereferenceThread =>
      cases taken
      exact .moves _ _ here .dereferenceThread
  | free =>
      cases taken
      exact .frees here
  | release =>
      cases taken
      exact .releases here

end Wnbd.Adapter
