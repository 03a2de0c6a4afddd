import Wnbd.Ioctl.Accesses

/-!
# Bounds on the system buffer

The system buffer of a service IRP has as many bytes as the longer one of its two
buffers.  Most commands compare the lengths with their structures.  Five do not:
`SET_DISK_SIZE` compares nothing, `SHOW`, `FETCH_REQ` and `SEND_RSP` compare with
the size of a pointer, `LIST_DRV_OPT` with that of an integer.
-/

set_option autoImplicit false

namespace Wnbd.Ioctl

open CLayout CLayout.Region TracedBuffer Wnbd.Scsi Wnbd.Dispatch

variable {extension : WnbdExtension} {irp : ServiceIrp} {pre : Memory → Prop}

/-- A success reports no more bytes than the output buffer has. -/
def InformationFits (irp : ServiceIrp) (result : IoctlResult) : Prop :=
  ntSuccess result.status = true → result.information ≤ irp.outputBufferLength.toNat

/-- The program makes permitted accesses and its result fits. -/
abbrev Bounded (irp : ServiceIrp) (pre : Memory → Prop) (program : Traced IoctlResult) : Prop :=
  Triple (Permitted irp) pre program fun result _ => InformationFits irp result

theorem finish_bounded (status : NtStatus) : Bounded irp pre (finish status) :=
  Triple.pure fun _ _ _ => Nat.zero_le _

theorem pure_bounded (status : NtStatus) (information : Nat) (effect : IoctlEffect)
    (fits : information ≤ irp.outputBufferLength.toNat) :
    Bounded irp pre (pure ⟨status, information, effect⟩) :=
  Triple.pure fun _ _ _ => fits

theorem ioctlCreate_bounded : Bounded irp pre (ioctlCreate extension irp) := by
  refine Triple.ite (fun _ => finish_bounded _) fun long => ?_
  obtain ⟨longInput, longOutput⟩ := not_or.mp long
  refine Triple.bind (fun _ _ => True) ((Keeps.loadBytes (permitted_input (Nat.le_trans
    (by decide) (size_le_input longInput)))).weaken (fun _ _ => trivial) fun _ _ _ => trivial)
    fun properties => ?_
  split
  · exact finish_bounded _
  · split
    · exact finish_bounded _
    · have fits := size_le_output longOutput
      refine Keeps.bind (Keeps.storeBytes (permitted_write (Nat.le_trans (by decide) fits))
        fun _ _ => trivial) fun _ => pure_bounded _ _ _ fits

/-! ## Named devices -/

theorem ioctlRemove_bounded : Bounded irp pre (ioctlRemove extension irp) := by
  refine Triple.ite (fun _ => finish_bounded _) fun long => ?_
  have inside : removeCommandName.stop ≤ irp.inputBufferLength.toNat :=
    Nat.le_trans (by decide) (size_le_input long)
  refine Triple.bind _ (terminateName_triple removeCommandName (by decide) inside) fun name => ?_
  refine Triple.ite (fun _ => finish_bounded _) fun _ => ?_
  refine Keeps.bind (wnbdFindDeviceByInstanceName_keeps removeCommandName.offset
    (removeCommandName.length - 1) (fun _ terminated => terminated) inside _) fun found => ?_
  cases found with
  | none => exact finish_bounded _
  | some device => exact pure_bounded _ _ _ (Nat.zero_le _)

theorem withNamedDevice_bounded (inputSize outputSize : Nat)
    (handle : ListedDevice → Traced IoctlResult)
    (covered : inputSize ≤ irp.inputBufferLength.toNat →
      nameCommandName.stop ≤ irp.inputBufferLength.toNat)
    (handled : ∀ device, outputSize ≤ irp.outputBufferLength.toNat →
      Bounded irp (fun _ => True) (handle device)) :
    Bounded irp pre (withNamedDevice extension irp inputSize outputSize handle) := by
  refine Triple.ite (fun _ => finish_bounded _) fun long => ?_
  have inside := covered (size_le_input long)
  refine Triple.bind _ (terminateName_triple nameCommandName (by decide) inside) fun name => ?_
  refine Triple.ite (fun _ => finish_bounded _) fun _ => ?_
  refine Triple.ite (fun _ => finish_bounded _) fun longOutput => ?_
  refine Keeps.bind (wnbdFindDeviceByInstanceName_keeps nameCommandName.offset
    (nameCommandName.length - 1) (fun _ terminated => terminated) inside _) fun found => ?_
  cases found with
  | none => exact finish_bounded _
  | some device =>
      exact (handled device (size_le_output longOutput)).weaken (fun _ _ => trivial)
        fun _ _ fits => fits

theorem writeConnectionInfo_keeps {inv : Memory → Prop} (entry : Region) (device : ListedDevice)
    (fits : wnbdConnectionInfo.size ≤ entry.length)
    (ends : entry.stop ≤ irp.outputBufferLength.toNat)
    (stable : ∀ memory region bytes, Inside region entry → inv memory →
      inv (store memory region bytes)) :
    Keeps (Permitted irp) inv (writeConnectionInfo entry device) := by
  have field : ∀ index, index < wnbdConnectionInfoFields.length → ∀ bytes,
      Keeps (Permitted irp) inv (storeBytes (connectionField entry index) bytes) := by
    intro index bound bytes
    have inside := field_inside entry wnbdConnectionInfoFields index bound fits
    exact Keeps.storeBytes (permitted_write (stop_le inside ends)) fun memory holds =>
      stable memory _ bytes inside holds
  refine Keeps.bind (Keeps.zeroMemory (permitted_write ends) fun memory holds =>
    stable memory entry _ (Inside.refl entry) holds) fun _ => ?_
  refine Keeps.bind (field 0 (by decide) _) fun _ => ?_
  refine Keeps.bind (field 2 (by decide) _) fun _ => ?_
  refine Keeps.bind (field 3 (by decide) _) fun _ => ?_
  refine Keeps.bind (field 4 (by decide) _) fun _ => ?_
  exact Keeps.bind (field 6 (by decide) _) fun _ => field 7 (by decide) _

theorem ioctlShow_bounded (covered : nameCommandName.stop ≤ irp.inputBufferLength.toNat) :
    Bounded irp pre (ioctlShow extension irp) := by
  refine withNamedDevice_bounded _ _ _ (fun _ => covered) fun device fits => ?_
  refine Keeps.bind (writeConnectionInfo_keeps _ device (Nat.le_refl _)
    (Nat.le_trans (by decide) fits) fun _ _ _ _ _ => trivial) fun _ => pure_bounded _ _ _ fits

theorem ioctlStats_bounded : Bounded irp pre (ioctlStats extension irp) := by
  refine withNamedDevice_bounded _ _ _ (fun long => Nat.le_trans (by decide) long)
    fun device fits => ?_
  exact Keeps.bind (Keeps.storeBytes (permitted_write (Nat.le_trans (by decide) fits))
    fun _ _ => trivial) fun _ => pure_bounded _ _ _ fits

/-! ## Connections -/

theorem ioctlSetDiskSize_bounded (covered : (setSizeField 2).stop ≤ irp.inputBufferLength.toNat) :
    Bounded irp pre (ioctlSetDiskSize extension) := by
  refine Keeps.bind (Keeps.loadNat (permitted_input (Nat.le_trans (by decide) covered)))
    fun connectionId => ?_
  refine Keeps.bind (Keeps.loadNat (permitted_input covered)) fun blockCount => ?_
  cases wnbdFindDeviceByConnId extension.devices connectionId with
  | none => exact finish_bounded _
  | some device => exact pure_bounded _ _ _ (Nat.zero_le _)

theorem ioctlSendRsp_bounded (covered : (rspCommandField 4).stop ≤ irp.inputBufferLength.toNat) :
    Bounded irp pre (ioctlSendRsp extension irp) := by
  refine Triple.ite (fun _ => finish_bounded _) fun _ => ?_
  refine Keeps.bind (Keeps.loadNat (permitted_input (Nat.le_trans (by decide) covered)))
    fun connectionId => ?_
  cases wnbdFindDeviceByConnId extension.devices connectionId with
  | none => exact finish_bounded _
  | some device =>
      exact Keeps.bind (wnbdHandleResponseAt_keeps
        (fun region ends => permitted_input (Nat.le_trans ends covered)) device _)
        fun status => finish_bounded _

/-- The result of a fetch that returned. -/
abbrev FetchBounded (irp : ServiceIrp) (pre : Memory → Prop)
    (program : Traced (Option IoctlResult)) : Prop :=
  Triple (Permitted irp) pre program fun value _ =>
    ∀ result, value = some result → InformationFits irp result

theorem fetchBounded_of_bounded {program : Traced IoctlResult}
    (bounded : Bounded irp pre program) : FetchBounded irp pre (some <$> program) :=
  Triple.map (bounded.weaken (fun _ holds => holds)
    fun _ _ fits _ same => Option.some.inj same ▸ fits)

theorem ioctlFetchReq_bounded (covered : (fetchCommandField 4).stop ≤ irp.inputBufferLength.toNat)
    (fits : wnbdIoctlFetchReqCommand.size ≤ irp.outputBufferLength.toNat) :
    FetchBounded irp pre (ioctlFetchReq extension irp) := by
  have accessed : ∀ kind region, region.stop ≤ (fetchCommandField 4).stop →
      Permitted irp ⟨kind, region⟩ :=
    fun kind region ends => permitted_input (Nat.le_trans ends covered)
  refine Triple.ite (fun _ => fetchBounded_of_bounded (finish_bounded _)) fun _ => ?_
  refine Keeps.bind (Keeps.loadNat (accessed _ _ (by decide))) fun connectionId => ?_
  cases wnbdFindDeviceByConnId extension.devices connectionId with
  | none => exact fetchBounded_of_bounded (finish_bounded _)
  | some device =>
      refine Triple.start (fetchCommandField 4) fun size => ?_
      refine Triple.bind (fun _ _ => True) ((wnbdDispatchRequestAt_triple accessed _ _ _ size
        .zero).weaken (fun _ both => both.2) fun _ _ _ => trivial) fun status => ?_
      cases status with
      | none => exact Triple.pure fun _ _ result absent => by cases absent
      | some status =>
          refine Keeps.bind (Keeps.loadNat (accessed _ _ (by decide))) fun _ => ?_
          refine Keeps.bind (Keeps.loadNat (accessed _ _ (by decide))) fun _ => ?_
          refine Triple.pure fun _ _ result same _ => ?_
          rw [← Option.some.inj same]
          exact fits

/-! ## Lists -/

/-- The 32 bit count in a list header holds this number. -/
def CountIs (count : Region) (number : Nat) (memory : Memory) : Prop := natAt memory count = number

theorem countIs_store (count : Region) (number : Nat) (memory : Memory) (region : Region)
    (bytes : Nat → UInt8) (behind : count.stop ≤ region.offset)
    (holds : CountIs count number memory) : CountIs count number (store memory region bytes) :=
  (natAt_store_of_disjoint memory count region bytes (Or.inl behind)).trans holds

theorem loadCount_triple (count : Region) (number : Nat)
    (inside : count.stop ≤ irp.outputBufferLength.toNat) :
    Triple (Permitted irp) (CountIs count number) (loadNat .read count) fun found memory =>
      CountIs count number memory ∧ found = number :=
  (Triple.loadNat (permitted_read inside)).weaken (fun _ holds => holds)
    fun _ _ both => ⟨both.1, both.2.trans both.1⟩

theorem incrementCount_triple (count : Region) (number : Nat) (width : count.length = 4)
    (inside : count.stop ≤ irp.outputBufferLength.toNat) (small : number + 1 < 2 ^ 32) :
    Triple (Permitted irp) (CountIs count number) (incrementCount count) fun _ =>
      CountIs count (number + 1) := by
  refine Triple.bind _ (loadCount_triple count number inside) fun found => ?_
  refine Triple.assume fun same => ?_
  refine Triple.storeNat (permitted_write inside) fun memory _ => ?_
  rw [CountIs, natAt_store, width, same]
  exact Nat.mod_eq_of_lt small

theorem connectionListEntry_stop (index : Nat) :
    (connectionListEntry index).stop = wnbdConnectionInfo.size * (index + 1) +
      connectionListHeader := by
  have first : ((whole wnbdConnectionList).field wnbdConnectionListFields 2).offset =
      connectionListHeader := by decide
  simp only [connectionListEntry, element, Region.stop, first]
  ring

theorem connectionListEntry_behind (index : Nat) :
    connectionListCount.stop ≤ (connectionListEntry index).offset :=
  Nat.le_trans (by decide : connectionListCount.stop ≤
    ((whole wnbdConnectionList).field wnbdConnectionListFields 2).offset) (Nat.le_add_right _ _)

theorem connectionInfo_size : wnbdConnectionInfo.size = 2032 := by decide

theorem connectionList_header : connectionListHeader = 8 := by decide

/-- Each round fills the entry `Count` names, as long as the remaining entries fit. -/
theorem enumerateDevices_triple (devices : List ListedDevice) (remaining number : Nat)
    (fits : 2032 * (number + remaining) + 8 ≤ irp.outputBufferLength.toNat) :
    Triple (Permitted irp) (CountIs connectionListCount number)
      (enumerateDevices remaining devices) fun _ memory =>
        2032 * natAt memory connectionListCount + 8 ≤ irp.outputBufferLength.toNat := by
  have small := irp.outputBufferLength.toNat_lt
  have inside : connectionListCount.stop ≤ irp.outputBufferLength.toNat :=
    Nat.le_trans (by decide : connectionListCount.stop ≤ 8) (by omega)
  have ended : ∀ memory, CountIs connectionListCount number memory →
      2032 * natAt memory connectionListCount + 8 ≤ irp.outputBufferLength.toNat := by
    intro memory holds
    rw [CountIs] at holds
    rw [holds]
    omega
  induction devices generalizing remaining number with
  | nil =>
      rw [enumerateDevices]
      exact Triple.pure ended
  | cons device rest hypothesis =>
      cases remaining with
      | zero =>
          rw [enumerateDevices]
          exact Triple.pure ended
      | succ remaining =>
          rw [enumerateDevices]
          have ends : (connectionListEntry number).stop ≤ irp.outputBufferLength.toNat := by
            rw [connectionListEntry_stop, connectionInfo_size, connectionList_header]
            omega
          refine Triple.bind _ (loadCount_triple _ number inside) fun count => ?_
          refine Triple.assume fun same => ?_
          rw [same]
          refine Keeps.bind (writeConnectionInfo_keeps _ device (Nat.le_refl _) ends
            fun memory region bytes within holds => countIs_store _ number memory region bytes
              (Nat.le_trans (connectionListEntry_behind number) within.1) holds) fun _ => ?_
          refine Triple.bind _ (incrementCount_triple connectionListCount number (by decide)
            inside (by omega)) fun _ => ?_
          refine hypothesis remaining (number + 1) (by omega) fun memory holds => ?_
          rw [CountIs] at holds
          rw [holds]
          omega

theorem listRemaining_fits (long : 8 ≤ irp.outputBufferLength.toNat) :
    2032 * listRemaining irp.outputBufferLength + 8 ≤ irp.outputBufferLength.toNat := by
  have eight : (UInt64.ofNat connectionListHeader).toNat = 8 := by decide
  have difference : (irp.outputBufferLength.toUInt64 - UInt64.ofNat connectionListHeader).toNat =
      irp.outputBufferLength.toNat - 8 := by
    rw [UInt64.toNat_sub_of_le, eight, UInt32.toNat_toUInt64]
    rw [UInt64.le_iff_toNat_le, eight, UInt32.toNat_toUInt64]
    exact long
  have quotient := Nat.mul_div_le (irp.outputBufferLength.toNat - 8) 2032
  have kept := Nat.mod_le ((irp.outputBufferLength.toNat - 8) / 2032) (2 ^ 32)
  rw [listRemaining, difference, connectionInfo_size]
  omega

/-- The product loses its high bits but is a multiple of 16 and 8 more: a buffer as
long as that holds the header. -/
theorem eight_le_listRequiredSize (extension : WnbdExtension) :
    8 ≤ listRequiredSize extension := by
  have size : wnbdConnectionList.size = 2040 := by decide
  rw [listRequiredSize, connectionInfo_size, size]
  omega

/-- A result of `LIST` or `LIST_DRV_OPT` may name the size that is needed instead. -/
def InformationFitsOr (irp : ServiceIrp) (required : Nat) (result : IoctlResult) : Prop :=
  InformationFits irp result ∨
    (irp.outputBufferLength.toNat < required ∧ result.information = required)

theorem ioctlList_triple :
    Triple (Permitted irp) pre (ioctlList extension irp) fun result _ =>
      InformationFitsOr irp (listRequiredSize extension) result := by
  refine Triple.ite (fun short => ?_) fun long => ?_
  · exact Triple.pure fun _ _ => Or.inr ⟨by simpa [checkOLocation] using short, rfl⟩
  have longEnough := Nat.le_trans (eight_le_listRequiredSize extension) (size_le_output long)
  have inside : ∀ region : Region, region.stop ≤ 8 →
      region.stop ≤ irp.outputBufferLength.toNat :=
    fun region ends => Nat.le_trans ends longEnough
  refine Triple.bind (fun _ => CountIs connectionListCount 0) (Triple.storeNat
    (permitted_write (inside _ (by decide))) fun memory _ => natAt_store memory _ 0) fun _ => ?_
  refine Keeps.bind (Keeps.storeNat (permitted_write (inside _ (by decide))) fun memory holds =>
    (natAt_store_of_disjoint memory _ _ _ (Or.inr (by decide))).trans holds) fun _ => ?_
  refine Triple.bind _ (enumerateDevices_triple extension.devices _ 0
    (by rw [Nat.zero_add]; exact listRemaining_fits longEnough)) fun complete => ?_
  refine Triple.bind _ (Triple.loadNat (permitted_read (inside _ (by decide)))) fun count => ?_
  refine Keeps.bind (Keeps.loadNat (permitted_read (inside _ (by decide)))) fun _ => ?_
  refine Triple.pure fun memory both => Or.inl fun _ => ?_
  dsimp only
  have fits := both.1
  rw [both.2, connectionInfo_size, connectionList_header, Nat.mul_comm]
  exact fits

/-! ## Version and options -/

theorem ioctlVersion_bounded : Bounded irp pre (ioctlVersion extension irp) := by
  refine Triple.ite (fun _ => finish_bounded _) fun _ => ?_
  refine Triple.ite (fun _ => finish_bounded _) fun long => ?_
  have fits := size_le_output long
  have field : ∀ index, index < wnbdVersionFields.length →
      Inside (versionField index) (whole wnbdVersion) :=
    fun index bound => field_inside _ _ index bound (Nat.le_refl _)
  have written : ∀ region : Region, Inside region (whole wnbdVersion) → ∀ bytes,
      Keeps (Permitted irp) (fun _ => True) (storeBytes region bytes) :=
    fun region inside bytes => Keeps.storeBytes
      (permitted_write (stop_le inside (Nat.le_trans (by decide) fits))) fun _ _ => trivial
  refine Triple.bind (fun _ _ => True) ((written _ (Inside.refl _) _).weaken
    (fun _ _ => trivial) fun _ _ _ => trivial) fun _ => ?_
  refine Keeps.bind (written _ (field 0 (by decide)) _) fun _ => ?_
  refine Keeps.bind (written _ (field 1 (by decide)) _) fun _ => ?_
  refine Keeps.bind (written _ (field 2 (by decide)) _) fun _ => ?_
  have short : min extension.version.str.length (wnbdMaxVersionStrLength - 1) ≤
      (versionField 3).length := Nat.le_trans (Nat.min_le_right _ _) (by decide)
  have string : Inside ⟨(versionField 3).offset, min extension.version.str.length
      (wnbdMaxVersionStrLength - 1)⟩ (versionField 3) :=
    ⟨Nat.le_refl _, Nat.add_le_add_left short _⟩
  exact Keeps.bind (written _ (string.trans (field 3 (by decide))) _)
    fun _ => pure_bounded _ _ _ fits

/-- The name is cut to the length an option name may have. -/
theorem terminateOptName_triple (name : Region) (inside : name.offset + 128 ≤
    irp.inputBufferLength.toNat) :
    Triple (Permitted irp) pre (terminateOptName name) fun _ =>
      Terminated wchar.size name.offset (wnbdMaxOptNameLength - 1) := by
  refine Triple.storeNat (permitted_input inside) fun memory _ => ?_
  exact natAt_store memory (name.element wchar (wnbdMaxOptNameLength - 1)) 0

theorem ioctlGetDrvOpt_bounded : Bounded irp pre (ioctlGetDrvOpt extension irp) := by
  refine Triple.ite (fun _ => finish_bounded _) fun longInput => ?_
  refine Triple.ite (fun _ => finish_bounded _) fun longOutput => ?_
  have covered := size_le_input longInput
  have fits := size_le_output longOutput
  have nameEnds : (drvOptField 1).offset + 128 ≤ irp.inputBufferLength.toNat :=
    Nat.le_trans (by decide) covered
  refine Triple.bind _ (terminateOptName_triple (drvOptField 1) nameEnds) fun _ => ?_
  refine Keeps.bind (Keeps.loadString (wnbdMaxOptNameLength - 1) (fun _ terminated => terminated)
    (string_permitted nameEnds)) fun name => ?_
  refine Keeps.bind (Keeps.loadNat (permitted_input (Nat.le_trans (by decide) covered)))
    fun persistent => ?_
  refine Triple.bind (fun _ _ => True) ((wnbdGetDrvOpt_keeps (Nat.le_refl _)
    (Nat.le_trans (by decide) fits) _ _ _ _).weaken (fun _ _ => trivial) fun _ _ _ => trivial)
    fun status => pure_bounded _ _ _ fits

theorem loadMappingsBarrier_keeps (status : NtStatus)
    (covered : wnbdIoctlSetDrvOptCommand.size ≤ irp.inputBufferLength.toNat) :
    Keeps (Permitted irp)
      (Terminated wchar.size (setDrvOptField 1).offset (wnbdMaxOptNameLength - 1))
      (loadMappingsBarrier status) := by
  refine Triple.ite (fun _ => ?_) fun _ => Keeps.pure _
  refine Keeps.bind (Keeps.compareString (wnbdMaxOptNameLength - 1)
    (fun _ terminated => terminated)
    (string_permitted (Nat.le_trans (by decide) covered))) fun same => ?_
  refine Triple.ite (fun _ => ?_) fun _ => Keeps.pure _
  exact Keeps.bind (Keeps.loadNat (permitted_input (Nat.le_trans (by decide) covered)))
    fun _ => Keeps.pure _

theorem ioctlSetDrvOpt_bounded : Bounded irp pre (ioctlSetDrvOpt extension irp) := by
  refine Triple.ite (fun _ => finish_bounded _) fun long => ?_
  have covered := size_le_input long
  refine Triple.bind _ (terminateOptName_triple (setDrvOptField 1)
    (Nat.le_trans (by decide) covered)) fun _ => ?_
  refine Keeps.bind (Keeps.loadNat (permitted_input (Nat.le_trans (by decide) covered)))
    fun persistent => ?_
  refine Keeps.bind (wnbdSetDrvOpt_keeps (by decide) (by decide)
    (Nat.le_trans (by decide) covered) _ _ _) fun outcome => ?_
  exact Keeps.bind (loadMappingsBarrier_keeps _ covered) fun _ =>
    pure_bounded _ _ _ (Nat.zero_le _)

theorem ioctlResetDrvOpt_bounded : Bounded irp pre (ioctlResetDrvOpt extension irp) := by
  refine Triple.ite (fun _ => finish_bounded _) fun long => ?_
  have covered := size_le_input long
  have nameEnds : (drvOptField 1).offset + 128 ≤ irp.inputBufferLength.toNat :=
    Nat.le_trans (by decide) covered
  refine Triple.bind _ (terminateOptName_triple (drvOptField 1) nameEnds) fun _ => ?_
  refine Keeps.bind (Keeps.loadNat (permitted_input (Nat.le_trans (by decide) covered)))
    fun persistent => ?_
  exact Keeps.bind (wnbdResetDrvOpt_keeps (fun _ terminated => terminated) nameEnds _ _ _)
    fun outcome => pure_bounded _ _ _ (Nat.zero_le _)

/-! ## The option list -/

/-- `Count` names an entry the loop has reached at most. -/
def CountAtMost (bound : Nat) (memory : Memory) : Prop := natAt memory optionListCount ≤ bound

theorem optionListEntry_stop (index : Nat) :
    (optionListEntry index).stop = 1368 * (index + 1) + 8 := by
  have first : ((whole wnbdOptionList).field wnbdOptionListFields 2).offset = 8 := by decide
  have size : wnbdOption.size = 1368 := by decide
  simp only [optionListEntry, element, Region.stop, first, size]
  ring

theorem optionListEntry_behind (index : Nat) :
    optionListCount.stop ≤ (optionListEntry index).offset :=
  Nat.le_trans (by decide : optionListCount.stop ≤
    ((whole wnbdOptionList).field wnbdOptionListFields 2).offset) (Nat.le_add_right _ _)

theorem listDrvOptSize_eq (options : List WnbdOption) :
    listDrvOptSize options = 1368 * options.length + 1376 := by
  have size : wnbdOption.size = 1368 := by decide
  have listSize : wnbdOptionList.size = 1376 := by decide
  rw [listDrvOptSize, size, listSize]

theorem countAtMost_store (bound index : Nat) (memory : Memory) (region : Region)
    (bytes : Nat → UInt8) (inside : Inside region (optionListEntry index))
    (holds : CountAtMost bound memory) : CountAtMost bound (store memory region bytes) := by
  rw [CountAtMost, natAt_store_of_disjoint memory _ _ _
    (Or.inl (Nat.le_trans (optionListEntry_behind index) inside.1))]
  exact holds

section ListOptions

variable {total : Nat} (fits : 1368 * total + 1376 ≤ irp.outputBufferLength.toNat)

include fits

theorem optionListCount_stop : optionListCount.stop ≤ irp.outputBufferLength.toNat :=
  Nat.le_trans (by decide : optionListCount.stop ≤ 1376) (by omega)

theorem optionListEntry_fits (index : Nat) (before : index < total) :
    (optionListEntry index).stop ≤ irp.outputBufferLength.toNat := by
  rw [optionListEntry_stop]
  omega

theorem loadCount_atMost (bound : Nat) :
    Triple (Permitted irp) (CountAtMost bound) (loadNat .read optionListCount)
      fun count memory => CountAtMost bound memory ∧ count ≤ bound :=
  (Triple.loadNat (permitted_read (optionListCount_stop fits))).weaken (fun _ holds => holds)
    fun _ _ both => ⟨both.1, both.2.trans_le both.1⟩

theorem incrementOptionCount_triple (bound : Nat) :
    Triple (Permitted irp) (CountAtMost bound) (incrementCount optionListCount) fun _ =>
      CountAtMost (bound + 1) := by
  refine Triple.bind _ (loadCount_atMost fits bound) fun found => ?_
  refine Triple.assume fun low => ?_
  refine Triple.storeNat (permitted_write (optionListCount_stop fits)) fun memory _ => ?_
  rw [CountAtMost, natAt_store]
  exact Nat.le_trans (Nat.mod_le _ _) (Nat.succ_le_succ low)

/-- The value goes to the entry `Count` names, which the loop has reached at most. -/
theorem storePersistentValue_keeps (value : Option OptionValue) (bound : Nat)
    (before : bound < total) :
    Keeps (Permitted irp) (CountAtMost bound) (storePersistentValue value) := by
  cases value with
  | none => exact Keeps.pure _
  | some value =>
      refine Triple.bind _ (loadCount_atMost fits bound) fun count => ?_
      refine Triple.assume fun low => ?_
      have inside : Inside ((optionListEntry count).field wnbdOptionFields 3)
          (optionListEntry count) := field_inside _ _ 3 (by decide) (Nat.le_refl _)
      have ends := optionListEntry_fits fits count (Nat.lt_of_le_of_lt low before)
      exact Keeps.storeBytes (permitted_write (stop_le inside ends)) fun memory holds =>
        countAtMost_store bound count memory _ _ inside holds

theorem appendOption_triple (option : WnbdOption) (value : Option OptionValue)
    (index bound : Nat) (low : index ≤ bound) (before : bound < total) :
    Triple (Permitted irp) (CountAtMost bound) (appendOption option value index) fun _ =>
      CountAtMost (bound + 1) := by
  have ends := optionListEntry_fits fits index (Nat.lt_of_le_of_lt low before)
  refine Keeps.bind (Keeps.storeBytes (permitted_write ends) fun memory holds =>
    countAtMost_store bound index memory _ _ (Inside.refl _) holds) fun _ => ?_
  refine Keeps.bind (storePersistentValue_keeps fits value bound before) fun _ => ?_
  exact incrementOptionCount_triple fits bound

theorem listOption_triple (optionStore : OptionStore) (faults : OptionFaults) (persistent : Bool)
    (index : Nat) (option : WnbdOption) (before : index < total) :
    Triple (Permitted irp) (CountAtMost index)
      (listOption optionStore faults persistent index option) fun _ =>
        CountAtMost (index + 1) := by
  refine Triple.ite (fun _ => ?_) fun _ =>
    appendOption_triple fits option none index index (Nat.le_refl _) before
  refine Triple.ite (fun _ => ?_) fun _ =>
    Triple.pure fun _ holds => Nat.le_succ_of_le holds
  refine Triple.bind _ (loadCount_atMost fits index) fun count => ?_
  refine Triple.assume fun low => ?_
  exact appendOption_triple fits option _ count index low before

theorem listOptions_triple (optionStore : OptionStore) (faults : OptionFaults) (persistent : Bool)
    (index : Nat) (options : List WnbdOption) (all : index + options.length = total) :
    Triple (Permitted irp) (CountAtMost index)
      (listOptions optionStore faults persistent index options) fun _ _ => True := by
  induction options generalizing index with
  | nil => exact Triple.pure fun _ _ => trivial
  | cons option rest hypothesis =>
      rw [List.length_cons] at all
      refine Triple.bind _ (listOption_triple fits optionStore faults persistent index option
        (by omega)) fun _ => ?_
      exact hypothesis (index + 1) (by omega)

end ListOptions

theorem ioctlListDrvOpt_triple (covered : listDrvOptPersistent.stop ≤
    irp.inputBufferLength.toNat) :
    Triple (Permitted irp) pre (ioctlListDrvOpt extension irp) fun result _ =>
      InformationFitsOr irp (listDrvOptSize extension.optionStore.options) result := by
  refine Triple.ite (fun _ => Triple.pure fun _ _ => Or.inl fun _ => Nat.zero_le _) fun _ => ?_
  refine Keeps.bind (Keeps.loadNat (permitted_input covered)) fun persistent => ?_
  refine Triple.bind (fun outcome _ => outcome.2 ≤ irp.outputBufferLength.toNat ∨
    (irp.outputBufferLength.toNat < listDrvOptSize extension.optionStore.options ∧
      outcome.2 = listDrvOptSize extension.optionStore.options)) ?_ fun outcome => ?_
  · refine Triple.ite (fun short => Triple.pure fun _ _ => Or.inr ⟨short, rfl⟩) fun long => ?_
    have fits := Nat.not_lt.mp long
    rw [listDrvOptSize_eq] at fits
    refine Triple.bind (fun _ => CountAtMost 0) (Triple.storeNat
      (permitted_write (optionListCount_stop fits)) fun memory _ => ?_) fun _ => ?_
    · exact (natAt_store memory optionListCount 0).le
    refine Triple.bind _ (listOptions_triple fits _ _ _ 0 _ (Nat.zero_add _)) fun _ => ?_
    exact Triple.pure fun _ _ => Or.inl (Nat.le_refl _)
  · refine Triple.ite (fun _ => Triple.pure fun _ sized => ?_) fun _ =>
      Triple.pure fun _ _ => Or.inl fun _ => Nat.zero_le _
    exact sized.imp (fun small _ => small) fun exact => exact

end Wnbd.Ioctl
