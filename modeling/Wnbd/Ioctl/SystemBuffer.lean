import Wnbd.Ioctl.Bounds

/-!
# The bounds of every command

The dispatcher and all its handlers stay inside the system buffer when the input
covers the fields of the five commands whose length checks do not.
-/

set_option autoImplicit false

namespace Wnbd.Ioctl

open CLayout CLayout.Region TracedBuffer Wnbd.Scsi Wnbd.Dispatch

variable {extension : WnbdExtension} {irp : ServiceIrp}

/-- The input bytes a command reads that its own length check does not ask for. -/
def uncheckedInput : WnbdCommand → Nat
  | .setDiskSize => (setSizeField 2).stop
  | .show => nameCommandName.stop
  | .fetchReq => (fetchCommandField 4).stop
  | .sendRsp => (rspCommandField 4).stop
  | .listDrvOpt => listDrvOptPersistent.stop
  | _ => 0

/-- A fetch reports the whole command as its output. -/
def uncheckedOutput : WnbdCommand → Nat
  | .fetchReq => wnbdIoctlFetchReqCommand.size
  | _ => 0

/-- The buffers cover what the command's own checks leave out. -/
def Covers (irp : ServiceIrp) (command : WnbdCommand) : Prop :=
  uncheckedInput command ≤ irp.inputBufferLength.toNat ∧
    uncheckedOutput command ≤ irp.outputBufferLength.toNat

instance (irp : ServiceIrp) (command : WnbdCommand) : Decidable (Covers irp command) :=
  inferInstanceAs (Decidable (_ ∧ _))

/-- The size the two list commands report when the output buffer is too short. -/
def requiredSize (extension : WnbdExtension) : WnbdCommand → Nat
  | .list => listRequiredSize extension
  | .listDrvOpt => listDrvOptSize extension.optionStore.options
  | _ => 0

def commandAt (memory : Memory) : Option WnbdCommand := wnbdCommand (natAt memory baseCommandCode)

/-- What a command that returned reports. -/
abbrev Reports (extension : WnbdExtension) (irp : ServiceIrp) (command : WnbdCommand)
    (value : Option IoctlResult) : Prop :=
  ∀ result, value = some result → InformationFitsOr irp (requiredSize extension command) result

theorem reports_of_bounded {program : Traced IoctlResult} {command : WnbdCommand}
    (bounded : Bounded irp (fun _ => True) program) :
    Triple (Permitted irp) (fun _ => True) (some <$> program) fun value _ =>
      Reports extension irp command value :=
  Triple.map (bounded.weaken (fun _ holds => holds)
    fun _ _ fits _ same => Or.inl (Option.some.inj same ▸ fits))

theorem reports_of_sized {program : Traced IoctlResult} {command : WnbdCommand}
    (sized : Triple (Permitted irp) (fun _ => True) program fun result _ =>
      InformationFitsOr irp (requiredSize extension command) result) :
    Triple (Permitted irp) (fun _ => True) (some <$> program) fun value _ =>
      Reports extension irp command value :=
  Triple.map (sized.weaken (fun _ holds => holds)
    fun _ _ fits _ same => Option.some.inj same ▸ fits)

theorem handleCommand_triple (command : WnbdCommand) (covers : Covers irp command) :
    Triple (Permitted irp) (fun _ => True) (handleCommand extension irp command)
      fun value _ => Reports extension irp command value := by
  cases command with
  | ping => exact reports_of_bounded (finish_bounded _)
  | create => exact reports_of_bounded ioctlCreate_bounded
  | remove => exact reports_of_bounded ioctlRemove_bounded
  | fetchReq =>
      exact (ioctlFetchReq_bounded covers.1 covers.2).weaken (fun _ holds => holds)
        fun _ _ fits result same => Or.inl (fits result same)
  | sendRsp => exact reports_of_bounded (ioctlSendRsp_bounded covers.1)
  | list => exact reports_of_sized ioctlList_triple
  | stats => exact reports_of_bounded ioctlStats_bounded
  | reloadConfig => exact reports_of_bounded (pure_bounded _ _ _ (Nat.zero_le _))
  | version => exact reports_of_bounded ioctlVersion_bounded
  | «show» => exact reports_of_bounded (ioctlShow_bounded covers.1)
  | getDrvOpt => exact reports_of_bounded ioctlGetDrvOpt_bounded
  | setDrvOpt => exact reports_of_bounded ioctlSetDrvOpt_bounded
  | resetDrvOpt => exact reports_of_bounded ioctlResetDrvOpt_bounded
  | listDrvOpt => exact reports_of_sized (ioctlListDrvOpt_triple covers.1)
  | setDiskSize => exact reports_of_bounded (ioctlSetDiskSize_bounded covers.1)

/-- What a returned request reports: a success fits the output buffer, or it is the
required size of a list that does not. -/
def RequestReports (extension : WnbdExtension) (irp : ServiceIrp) (memory : Memory)
    (result : IoctlResult) : Prop :=
  InformationFits irp result ∨ ∃ command, commandAt memory = some command ∧
    irp.outputBufferLength.toNat < requiredSize extension command ∧
    result.information = requiredSize extension command

/-- Every access stays inside the system buffer, what is taken from the command
stays inside its input part, and the reported length fits. -/
theorem service_irp_buffer_bounds (extension : WnbdExtension) (irp : ServiceIrp) (memory : Memory)
    (covers : ∀ command, commandAt memory = some command → Covers irp command) :
    Accesses (Permitted irp) (wnbdParseUserIoctl extension irp) memory ∧
      ∀ result, (wnbdParseUserIoctl extension irp memory).value = some result →
        RequestReports extension irp memory result := by
  have refused : ∀ status, Triple (Permitted irp) (fun found => found = memory)
      (some <$> finish status) fun value _ => ∀ result, value = some result →
        RequestReports extension irp memory result := by
    intro status
    refine Triple.map (Triple.pure fun _ _ result same => Or.inl fun _ => ?_)
    rw [← Option.some.inj same]
    exact Nat.zero_le _
  suffices whole : Triple (Permitted irp) (fun found => found = memory)
      (wnbdParseUserIoctl extension irp) fun value _ => ∀ result, value = some result →
        RequestReports extension irp memory result from whole memory rfl
  refine Triple.ite (fun _ => refused _) fun _ => ?_
  refine Triple.ite (fun _ => refused _) fun usable => ?_
  have header : baseCommandCode.stop ≤ irp.inputBufferLength.toNat :=
    Nat.le_trans (by decide) (size_le_input (not_or.mp usable).2)
  refine Triple.bind _ (Triple.loadNat (permitted_input header)) fun code => ?_
  have named : ∀ found, (found = memory ∧ code = natAt found baseCommandCode) →
      commandAt memory = wnbdCommand code := by
    rintro found ⟨rfl, rfl⟩
    rfl
  cases decoded : wnbdCommand code with
  | none => exact (refused _).weaken (fun _ both => both.1) fun _ _ holds => holds
  | some command =>
      intro found both
      have known : commandAt memory = some command := (named found both).trans decoded
      obtain ⟨accessed, reports⟩ :=
        handleCommand_triple command (covers command known) found trivial
      refine ⟨accessed, fun result same => ?_⟩
      exact (reports result same).imp (fun fits => fits) fun required => ⟨command, known, required⟩

/-! ## Two requests -/

def noDevices : WnbdExtension :=
  { requestorPid := 4
    deviceCount := 0
    devices := []
    createConnection := fun _ => .error statusInvalidParameter
    optionStore := ⟨[], fun _ => none⟩
    optionFaults := ⟨fun _ => 0, fun _ => 0, fun _ => 0, .ok 0⟩
    version := ⟨0, 0, 0, []⟩ }

def serviceIrp (inputBufferLength outputBufferLength : UInt32) : ServiceIrp :=
  ⟨ioctlMiniportProcessServiceIrp, true, inputBufferLength, outputBufferLength⟩

def commandBuffer (code : Nat) : Memory := store (fun _ => 0) baseCommandCode (leBytes code)

theorem service_irp_buffer_bounds_resize :
    Accesses (Permitted (serviceIrp 56 0)) (wnbdParseUserIoctl noDevices (serviceIrp 56 0))
        (commandBuffer 15) ∧
      ∀ result, (wnbdParseUserIoctl noDevices (serviceIrp 56 0) (commandBuffer 15)).value =
          some result →
        RequestReports noDevices (serviceIrp 56 0) (commandBuffer 15) result := by
  refine service_irp_buffer_bounds noDevices (serviceIrp 56 0) (commandBuffer 15) ?_
  intro command known
  have resize : commandAt (commandBuffer 15) = some .setDiskSize := by decide
  cases resize.symm.trans known
  decide

/-- A resize that is only as long as its code has its connection read behind the
buffer; a listing of no devices reports 2040 bytes for an output buffer of eight. -/
theorem short_requests_exceed :
    ¬ Accesses (Permitted (serviceIrp 4 0)) (wnbdParseUserIoctl noDevices (serviceIrp 4 0))
        (commandBuffer 15) ∧
      ∃ result, (wnbdParseUserIoctl noDevices (serviceIrp 8 8) (commandBuffer 6)).value =
          some result ∧
        ¬ InformationFits (serviceIrp 8 8) result := by
  constructor
  · intro bounds
    have taken := bounds ⟨.take, setSizeField 1⟩ (by decide)
    exact absurd (taken.2 rfl) (by decide)
  · refine ⟨⟨statusSuccess, 2040, .none⟩, rfl, ?_⟩
    intro fits
    exact absurd (fits (by decide)) (by decide)

end Wnbd.Ioctl
